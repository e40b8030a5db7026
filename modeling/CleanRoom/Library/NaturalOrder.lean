import CleanRoom.Library.DotNetText

/-!
# Texts in the order of the numbers in them

Every run of digits of a text is filled up with zeros to a width. Two texts that end with a
number behind the same beginning compare as these numbers do, as long as no number has more
digits than the width. How texts compare otherwise is left to the rules of a culture.
-/

namespace CleanRoom.NaturalOrder

open JavaScript JsNumber

/-- What `\d` matches, and how a culture orders texts. As many digits behind the same text
decide the order. -/
structure TextRules where
  isDecimal : Char → Bool
  decimal_ascii : ∀ char, char.toNat < 128 → isDecimal char = char.isDigit
  le : String → String → Bool
  total : ∀ left right, (le left right || le right left) = true
  trans : ∀ left middle right, le left middle = true → le middle right = true →
    le left right = true
  digits_decide : ∀ before left right, IsDigits left → IsDigits right →
    left.length = right.length → valueOf 10 left < valueOf 10 right →
      le (String.ofList (before ++ right)) (String.ofList (before ++ left)) = false

variable (rules : TextRules) (width : Nat)

def padLeft (run : List Char) : List Char := List.replicate (width - run.length) '0' ++ run

def padRun (run : List Char) : List Char := if run.isEmpty then [] else padLeft width run

/-- The replacement of `\d+` in the rest of a text, behind the digits of a run. -/
def padRuns : List Char → List Char → List Char
  | run, [] => padRun width run
  | run, char :: rest =>
      if rules.isDecimal char then padRuns (run ++ [char]) rest
      else padRun width run ++ char :: padRuns [] rest

def padNumbers (text : String) : String := String.ofList (padRuns rules width [] text.toList)

/-- `OrderBy` with a text as the key -/
def orderBy {Item : Type} (key : Item → String) (items : List Item) : List Item :=
  items.mergeSort fun left right => rules.le (key left) (key right)

variable {rules width}

theorem decimal_of_digit (char : Char) (digit : char.isDigit = true) :
    rules.isDecimal char = true := by
  have bounds : 48 ≤ char.toNat ∧ char.toNat ≤ 57 := by
    simpa [Char.isDigit, UInt32.le_iff_toNat_le] using digit
  rw [rules.decimal_ascii char (by omega), digit]

theorem pad_runs_break (run before after : List Char) (char : Char)
    (other : rules.isDecimal char = false) :
    padRuns rules width run (before ++ char :: after) =
      padRuns rules width run before ++ char :: padRuns rules width [] after := by
  induction before generalizing run with
  | nil => simp [padRuns, other]
  | cons first before ih =>
      rw [List.cons_append, padRuns, padRuns, ih, ih]
      split <;> simp

theorem pad_runs_digits (run digits : List Char) (all : ∀ char ∈ digits, char.isDigit = true) :
    padRuns rules width run digits = padRun width (run ++ digits) := by
  induction digits generalizing run with
  | nil => rw [padRuns, List.append_nil]
  | cons digit digits ih =>
      obtain ⟨here, later⟩ := List.forall_mem_cons.mp all
      rw [padRuns, if_pos (decimal_of_digit digit here), ih _ later, List.append_assoc,
        List.singleton_append]

theorem pad_numbers_number (before : List Char) (char : Char) (number : Nat)
    (other : rules.isDecimal char = false) :
    padNumbers rules width (String.ofList (before ++ char :: (toString number).toList)) =
      String.ofList ((padRuns rules width [] before ++ [char]) ++
        padLeft width (toString number).toList) := by
  have digits := number_digits number
  have nonempty : (toString number).toList.isEmpty = false := by simp
  rw [padNumbers, String.toList_ofList, pad_runs_break _ _ _ _ other,
    pad_runs_digits _ _ digits.2, List.nil_append, padRun, nonempty]
  simp

theorem pad_left_number (number : Nat) (small : number < 10 ^ width) (some : 0 < width) :
    IsDigits (padLeft width (toString number).toList) ∧
      (padLeft width (toString number).toList).length = width ∧
      valueOf 10 (padLeft width (toString number).toList) = number := by
  have digits := (number_digits number).2
  have short : (toString number).toList.length ≤ width := by
    rw [show (toString number).toList = Nat.toDigits 10 number from Nat.toList_repr]
    exact (Nat.length_toDigits_le_iff (by decide) some).mpr small
  refine ⟨⟨?_, ?_⟩, ?_, ?_⟩
  · simp [padLeft]
  · intro char member
    rcases List.mem_append.mp member with zero | digit
    · rw [List.eq_of_mem_replicate zero]
      rfl
    · exact digits char digit
  · rw [padLeft, List.length_append, List.length_replicate]
    omega
  · rw [padLeft, value_zeros, value_of_number]

/-- Padded texts that are in order have their numbers in order. -/
theorem numbers_ordered (before : List Char) (char : Char) (left right : Nat)
    (plain : rules.isDecimal char = false) (some : 0 < width) (leftSmall : left < 10 ^ width)
    (rightSmall : right < 10 ^ width)
    (ordered : rules.le
      (padNumbers rules width (String.ofList (before ++ char :: (toString left).toList)))
      (padNumbers rules width (String.ofList (before ++ char :: (toString right).toList))) = true) :
    left ≤ right := by
  by_contra above
  obtain ⟨leftDigits, leftLength, leftValue⟩ := pad_left_number left leftSmall some
  obtain ⟨rightDigits, rightLength, rightValue⟩ := pad_left_number right rightSmall some
  rw [pad_numbers_number _ _ _ plain, pad_numbers_number _ _ _ plain] at ordered
  have reversed := rules.digits_decide (padRuns rules width [] before ++ [char]) _ _ rightDigits
    leftDigits (rightLength.trans leftLength.symm) (by omega)
  exact absurd (ordered.symm.trans reversed) (by decide)

variable {Item : Type} {key : Item → String} {items : List Item}

theorem order_by_last (last : Item) (isLast : (orderBy rules key items).getLast? = some last) :
    last ∈ items ∧ ∀ item ∈ items, rules.le (key item) (key last) = true := by
  have inOrder : (orderBy rules key items).Pairwise fun left right =>
      rules.le (key left) (key right) = true :=
    List.pairwise_mergeSort (fun first second third => rules.trans (key first) (key second) _)
      (fun first second => rules.total _ _) items
  have same : ∀ item, item ∈ orderBy rules key items ↔ item ∈ items :=
    fun item => List.mem_mergeSort
  obtain ⟨before, split⟩ := List.getLast?_eq_some_iff.mp isLast
  rw [split] at inOrder same
  constructor
  · exact (same last).mp (by simp)
  · intro item member
    rcases List.mem_append.mp ((same item).mpr member) with earlier | final
    · exact (List.pairwise_append.mp inOrder).2.2 item earlier last (List.mem_singleton_self _)
    · rw [List.mem_singleton.mp final]
      simpa using rules.total (key last) (key last)

theorem order_by_some (nonempty : items ≠ []) :
    ∃ last, (orderBy rules key items).getLast? = some last := by
  apply Option.ne_none_iff_exists'.mp
  intro none
  have lengths := congrArg List.length (List.getLast?_eq_none_iff.mp none)
  rw [orderBy, List.length_mergeSort] at lengths
  exact nonempty (List.eq_nil_of_length_eq_zero lengths)

/-! Comparing the code units is one of the orders. -/

theorem units_below_lt (left right : List Nat) (same : left.length = right.length)
    (below : unitsBelow left right = true) : left < right := by
  induction left generalizing right with
  | nil =>
      cases right with
      | nil => cases below
      | cons unit units => cases same
  | cons unit left ih =>
      cases right with
      | nil => cases same
      | cons first right =>
          simp only [unitsBelow, Bool.or_eq_true, Bool.and_eq_true, decide_eq_true_eq] at below
          rw [List.cons_lt_cons_iff]
          rcases below with less | ⟨equal, rest⟩
          · exact Or.inl less
          · exact Or.inr ⟨equal, ih right (by simpa using same) rest⟩

theorem utf16_units_digits (before digits : List Char) (all : IsDigits digits) :
    utf16Units (String.ofList (before ++ digits)) =
      utf16Units (String.ofList before) ++ digits.map Char.toNat := by
  have units := units_of_digits (String.ofList digits) (by simpa using all.2)
  rw [String.toList_ofList] at units
  rw [← units]
  simp [utf16Units]

def ordinal : TextRules where
  isDecimal := Char.isDigit
  decimal_ascii := fun _ _ => rfl
  le := fun left right => !decide (utf16Units right < utf16Units left)
  total := fun left right => by
    have apart := @List.lt_asymm _ _ _ (utf16Units left) (utf16Units right)
    grind
  trans := fun left middle right first second => by
    simp only [Bool.not_eq_true', decide_eq_false_iff_not] at first second ⊢
    exact List.not_lt.mpr (List.le_trans (List.not_lt.mp first) (List.not_lt.mp second))
  digits_decide := fun before left right leftDigits rightDigits same less => by
    have below := (units_below_iff left right same leftDigits.2 rightDigits.2).mpr less
    have lt := units_below_lt _ _ (by simpa using same) below
    rw [utf16_units_digits _ _ leftDigits, utf16_units_digits _ _ rightDigits]
    simpa using List.append_left_lt lt

end CleanRoom.NaturalOrder
