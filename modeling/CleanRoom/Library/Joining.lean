import Mathlib.Data.String.Basic
import Mathlib.Data.List.Basic
import Mathlib.Tactic.Common

/-!
# Texts that are joined and split at a character

Two pairs of texts that are joined by one separator give the same text when the
separator occurs in the texts at the right places, and in no other case. A text is
split into parts without the separator.
-/

namespace CleanRoom.Joining

def joined (separator : Char) (first second : String) : String :=
  first ++ String.singleton separator ++ second

/-- The first text of the second pair continues that of the first pair over a separator. -/
def Continues (separator : Char) (first second other another : String) : Prop :=
  ∃ between, other = joined separator first between ∧ second = joined separator between another

variable {separator : Char} {first second other another : String}

theorem joined_to_list (first second : String) :
    (joined separator first second).toList = first.toList ++ separator :: second.toList := by
  simp [joined]

theorem joined_assoc (first second third : String) :
    joined separator (joined separator first second) third =
      joined separator first (joined separator second third) := by
  simp only [joined, String.append_assoc]

private theorem continues_of_append
    (between : List Char) (continued : other.toList = first.toList ++ between)
    (rest : separator :: second.toList = between ++ separator :: another.toList) :
    (first = other ∧ second = another) ∨ Continues separator first second other another := by
  cases between with
  | nil =>
      left
      rw [List.append_nil] at continued
      rw [List.nil_append, List.cons.injEq] at rest
      exact ⟨(String.toList_injective continued).symm, String.toList_injective rest.2⟩
  | cons char between =>
      right
      rw [List.cons_append, List.cons.injEq] at rest
      obtain ⟨rfl, rest⟩ := rest
      refine ⟨String.ofList between, String.toList_injective ?_, String.toList_injective ?_⟩
      · rw [continued, joined_to_list, String.toList_ofList]
      · rw [rest, joined_to_list, String.toList_ofList]

theorem joined_eq_iff :
    joined separator first second = joined separator other another ↔
      (first = other ∧ second = another) ∨ Continues separator first second other another ∨
        Continues separator other another first second := by
  constructor
  · intro same
    have lists := congrArg String.toList same
    rw [joined_to_list, joined_to_list] at lists
    rcases List.append_eq_append_iff.mp lists with
      ⟨between, continued, rest⟩ | ⟨between, continued, rest⟩
    · rcases continues_of_append between continued rest with
        equal | continues
      · exact .inl equal
      · exact .inr (.inl continues)
    · rcases continues_of_append between continued rest with
        ⟨rfl, rfl⟩ | continues
      · exact .inl ⟨rfl, rfl⟩
      · exact .inr (.inr continues)
  · rintro (⟨rfl, rfl⟩ | ⟨between, rfl, rfl⟩ | ⟨between, rfl, rfl⟩)
    · rfl
    · exact (joined_assoc first between another).symm
    · exact joined_assoc other between second

theorem joined_right_injective (separator : Char) (first second another : String)
    (same : joined separator first second = joined separator first another) :
    second = another := by
  have lists := congrArg String.toList same
  rw [joined_to_list, joined_to_list] at lists
  exact String.toList_injective (List.cons.inj (List.append_cancel_left lists)).2

theorem to_string_inj {left right : Nat} (same : toString left = toString right) :
    left = right := by
  have digits : Nat.toDigits 10 left = Nat.toDigits 10 right := by
    rw [← Nat.toList_repr, ← Nat.toList_repr]
    exact congrArg String.toList same
  rw [← Nat.ofDigitChars_ten_toDigits (n := left), digits, Nat.ofDigitChars_ten_toDigits]

-- The positions are those of `rest` behind the text that was read, of which `part`
-- belongs to the part that is open.
private theorem split_on_aux_char (separator : Char) (behind part rest : List Char)
    (found : List String) :
    String.splitOnAux (String.ofList (behind ++ part ++ rest)) (String.singleton separator)
        ⟨String.utf8Len behind⟩ ⟨String.utf8Len behind + String.utf8Len part⟩ 0 found =
      found.reverse ++
        (List.splitOnPPrepend (· == separator) rest part.reverse).map String.ofList := by
  induction rest generalizing behind part found with
  | nil =>
      have finished := (String.atEnd_of_valid (behind ++ part) []).mpr rfl
      rw [String.utf8Len_append] at finished
      rw [String.splitOnAux, if_pos finished, String.extract_of_valid]
      simp [List.splitOnPPrepend]
  | cons char rest ih =>
      have unfinished : ¬String.Pos.Raw.atEnd (String.ofList (behind ++ part ++ char :: rest))
          ⟨String.utf8Len behind + String.utf8Len part⟩ := by
        rw [← String.utf8Len_append, String.atEnd_of_valid]
        exact List.cons_ne_nil char rest
      have here : String.Pos.Raw.get (String.ofList (behind ++ part ++ char :: rest))
          ⟨String.utf8Len behind + String.utf8Len part⟩ = char := by
        rw [← String.utf8Len_append, String.get_of_valid]
        rfl
      have next : String.Pos.Raw.next (String.ofList (behind ++ part ++ char :: rest))
          ⟨String.utf8Len behind + String.utf8Len part⟩ =
          ⟨String.utf8Len behind + String.utf8Len part + char.utf8Size⟩ := by
        rw [← String.utf8Len_append, String.next_of_valid]
      have separatorHere : String.Pos.Raw.get (String.singleton separator) 0 = separator :=
        String.get_of_valid [] [separator]
      have separatorRead : String.Pos.Raw.next (String.singleton separator) 0 =
          ⟨separator.utf8Size⟩ := by
        rw [show String.singleton separator = String.ofList ([] ++ separator :: []) from rfl,
          show (0 : String.Pos.Raw) = ⟨String.utf8Len []⟩ from rfl, String.next_of_valid]
        simp
      have separatorEnds : String.Pos.Raw.atEnd (String.singleton separator)
          ⟨separator.utf8Size⟩ := by
        simpa using (String.atEnd_of_valid [separator] []).mpr rfl
      rw [String.splitOnAux, if_neg unfinished, here, separatorHere, next, separatorRead]
      by_cases same : char = separator
      · subst same
        have later := ih (behind ++ part ++ [char]) [] (String.ofList part :: found)
        have back : String.Pos.Raw.unoffsetBy
            ⟨String.utf8Len behind + String.utf8Len part + char.utf8Size⟩ ⟨char.utf8Size⟩ =
            ⟨String.utf8Len behind + String.utf8Len part⟩ := by
          simp [String.Pos.Raw.unoffsetBy]
        simp only [beq_self_eq_true, if_true, separatorEnds]
        rw [back, String.extract_of_valid behind part (char :: rest)]
        simp only [List.append_nil, List.append_assoc, List.singleton_append,
          String.utf8Len_append, String.utf8Len_cons, String.utf8Len_nil, Nat.zero_add,
          Nat.add_zero, ← Nat.add_assoc] at later
        rw [List.append_assoc, later, List.splitOnPPrepend_cons_eq_if]
        simp
      · have later := ih behind (part ++ [char]) found
        have stays : String.Pos.Raw.unoffsetBy
            ⟨String.utf8Len behind + String.utf8Len part⟩ 0 =
            ⟨String.utf8Len behind + String.utf8Len part⟩ := rfl
        simp only [beq_iff_eq, same, if_false]
        simp only [List.append_assoc, List.singleton_append, String.utf8Len_append,
          String.utf8Len_cons, String.utf8Len_nil, Nat.zero_add, ← Nat.add_assoc] at later
        rw [stays, next, List.append_assoc, later, List.splitOnPPrepend_cons_eq_if]
        simp [same]

theorem split_on_singleton (text : String) (separator : Char) :
    text.splitOn (String.singleton separator) =
      (text.toList.splitOn separator).map String.ofList := by
  have proper : (String.singleton separator == "") = false := by
    rw [beq_eq_false_iff_ne]
    intro empty
    simpa using congrArg String.toList empty
  have split := split_on_aux_char separator [] [] text.toList []
  simp only [List.nil_append, List.reverse_nil, String.ofList_toList] at split
  unfold String.splitOn
  rw [proper]
  exact split

theorem split_on_joined (first second : String) :
    (joined separator first second).splitOn (String.singleton separator) =
      first.splitOn (String.singleton separator) ++
        second.splitOn (String.singleton separator) := by
  rw [split_on_singleton, split_on_singleton, split_on_singleton, joined_to_list,
    List.splitOn_append_cons_self, List.map_append]

theorem split_on_plain (text : String) (plain : separator ∉ text.toList) :
    text.splitOn (String.singleton separator) = [text] := by
  rw [split_on_singleton, List.splitOn_eq_singleton plain]
  simp

private theorem mem_split_on_list (text part : List Char) (member : part ∈ text.splitOn separator) :
    separator ∉ part ∧ ∀ char ∈ part, char ∈ text := by
  induction text generalizing part with
  | nil =>
      rw [List.splitOn_nil, List.mem_singleton] at member
      subst member
      simp
  | cons char rest ih =>
      have from_rest : part ∈ rest.splitOn separator →
          separator ∉ part ∧ ∀ other ∈ part, other ∈ char :: rest := by
        intro member
        obtain ⟨without, inside⟩ := ih part member
        exact ⟨without, fun other there => List.mem_cons_of_mem _ (inside other there)⟩
      rw [List.splitOn_cons_eq_if_modifyHead] at member
      split at member
      · rcases List.mem_cons.mp member with rfl | member
        · simp
        · exact from_rest member
      next different =>
        cases parts : rest.splitOn separator with
        | nil => exact absurd parts (List.splitOn_ne_nil separator rest)
        | cons first others =>
            rw [parts] at ih member from_rest
            rcases List.mem_cons.mp member with rfl | member
            · obtain ⟨without, inside⟩ := ih first List.mem_cons_self
              have other : separator ≠ char := fun same => different (by simp [same])
              refine ⟨?_, ?_⟩
              · exact List.not_mem_cons_of_ne_of_not_mem other without
              · exact List.forall_mem_cons.mpr ⟨List.mem_cons_self,
                  fun other there => List.mem_cons_of_mem _ (inside other there)⟩
            · exact from_rest (List.mem_cons_of_mem _ member)

theorem mem_split_on (separator : Char) (text part : String)
    (member : part ∈ text.splitOn (String.singleton separator)) :
    separator ∉ part.toList ∧ ∀ char ∈ part.toList, char ∈ text.toList := by
  rw [split_on_singleton] at member
  obtain ⟨chars, split, rfl⟩ := List.mem_map.mp member
  rw [String.toList_ofList]
  exact mem_split_on_list text.toList chars split

theorem split_on_intercalate (first : String) (others : List String) :
    (String.intercalate (String.singleton separator) (first :: others)).toList.splitOn separator =
      (first :: others).flatMap fun text => text.toList.splitOn separator := by
  induction others generalizing first with
  | nil => simp
  | cons second others ih =>
      rw [String.intercalate_cons_cons, String.toList_append, String.toList_append,
        String.toList_singleton, List.append_assoc, List.singleton_append,
        List.splitOn_append_cons_self, ih]
      rfl

private theorem split_on_map (change : Char → Char)
    (apart : ∀ char, change char = separator ↔ char = separator) (text : List Char) :
    (text.map change).splitOn separator = (text.splitOn separator).map (List.map change) := by
  induction text with
  | nil => simp
  | cons char rest ih =>
      rw [List.map_cons, List.splitOn_cons_eq_if_modifyHead, List.splitOn_cons_eq_if_modifyHead, ih]
      by_cases same : char = separator
      · simp [same, apart]
      · cases parts : rest.splitOn separator with
        | nil => exact absurd parts (List.splitOn_ne_nil separator rest)
        | cons first others => simp [same, apart]

/-- A change of characters that leaves the separator alone changes the parts of a text. -/
theorem map_eq_iff_split_on (change : Char → Char)
    (apart : ∀ char, change char = separator ↔ char = separator) (text other : List Char) :
    text.map change = other.map change ↔
      (text.splitOn separator).map (List.map change) =
        (other.splitOn separator).map (List.map change) := by
  rw [← split_on_map change apart, ← split_on_map change apart]
  constructor
  · intro same
    rw [same]
  · intro same
    have whole := congrArg (List.intercalate [separator]) same
    rwa [List.intercalate_splitOn, List.intercalate_splitOn] at whole

end CleanRoom.Joining
