import CleanRoom.Library.JavaScript
import Mathlib.Data.List.TakeDrop

/-!
# Names of jobs

`FrontendJobIdFormat` of the agent and `to_spark_app_name` of the frontend make the name of a
job from its id. The agent lowercases with the current culture and replaces code units of
UTF-16, the frontend lowercases with the full mappings of Unicode and replaces characters.
Both names are cut at 63, wherever that is.
-/

namespace CleanRoom.Analytics

open JavaScript

def dottedI : Char := Char.ofNat 0x130

def dotAbove : Char := Char.ofNat 0x307

def kelvinSign : Char := Char.ofNat 0x212A

/-- The characters outside `[^a-z0-9-]`, by their code. -/
def isNameCode (code : Nat) : Bool :=
  (97 ≤ code && code ≤ 122) || (48 ≤ code && code ≤ 57) || code = 45

/-- The casing rules of a culture, which map each character to one of as many code units.
Only for I with and without a dot and for the sign for kelvin are ASCII and the rest not kept
apart. -/
structure Culture where
  lower : Char → Char
  lower_ascii : ∀ char, char.toNat < 128 → char ≠ 'I' → lower char = char.toLower
  lower_other : ∀ char, 128 ≤ char.toNat → char ≠ dottedI → char ≠ kelvinSign →
    128 ≤ (lower char).toNat
  lower_units : ∀ char, (lower char).toNat < 0x10000 ↔ char.toNat < 0x10000

def Culture.toLower (culture : Culture) (input : String) : String :=
  String.ofList (input.toList.map culture.lower)

def frontendJobIdFormat (culture : Culture) (input : String) : List Nat :=
  let result := utf16Units "cl-spark-" ++
    (utf16Units (culture.toLower input)).map fun unit => if isNameCode unit then unit else 45
  if result.length > 63 then result.take 63 else result

/-- The lowercase mappings that depend on the Unicode version or, for the final sigma, on what
stands before and after a character. -/
structure UnicodeTables where
  lower : List Char → Char → List Char → Char
  lower_other : ∀ before char after, 128 ≤ (lower before char after).toNat

def UnicodeTables.lowerAt (tables : UnicodeTables) (before : List Char) (char : Char)
    (after : List Char) : List Char :=
  if char.toNat < 128 then [char.toLower]
  else if char = dottedI then ['i', dotAbove]
  else if char = kelvinSign then ['k']
  else [tables.lower before char after]

/-- `name.lower()`, from a place in the name. -/
def UnicodeTables.lowerFrom (tables : UnicodeTables) (before : List Char) : List Char → List Char
  | [] => []
  | char :: after =>
      tables.lowerAt before char after ++ tables.lowerFrom (before ++ [char]) after

def nameChar (char : Char) : Char := if isNameCode char.toNat then char else '-'

def toSparkAppName (tables : UnicodeTables) (name : String) : String :=
  String.ofList (("cl-spark-".toList ++ (tables.lowerFrom [] name.toList).map nameChar).take 63)

def frontendChars (char : Char) : List Char :=
  if char.toNat < 128 then [nameChar char.toLower]
  else if char = dottedI then ['i', '-']
  else if char = kelvinSign then ['k']
  else ['-']

/-- What the agent makes of a character: two hyphens of a pair of surrogates, and what the
frontend makes of it unless the culture has a say. -/
def agentChars (culture : Culture) (char : Char) : List Char :=
  if 0x10000 ≤ char.toNat then ['-', '-']
  else if char = 'I' ∨ char = dottedI ∨ char = kelvinSign then [nameChar (culture.lower char)]
  else frontendChars char

variable {tables : UnicodeTables} {char : Char} {culture : Culture} {input : String} {name : String}

theorem is_name_code_name_char : isNameCode (nameChar char).toNat = true := by
  unfold nameChar
  split
  · assumption
  · decide

theorem is_name_code_of_large (code : Nat) (large : 128 ≤ code) : isNameCode code = false := by
  simp only [isNameCode, Bool.or_eq_false_iff, Bool.and_eq_false_iff, decide_eq_false_iff_not]
  omega

theorem name_char_of_large (large : 128 ≤ char.toNat) : nameChar char = '-' := by
  simp [nameChar, is_name_code_of_large char.toNat large]

theorem lower_at_name (before : List Char) (after : List Char) :
    (tables.lowerAt before char after).map nameChar = frontendChars char := by
  have other := name_char_of_large (tables.lower_other before char after)
  unfold UnicodeTables.lowerAt frontendChars
  split_ifs
  · rfl
  · decide
  · decide
  · rw [List.map_singleton, other]

theorem lower_from_name (before name : List Char) :
    (tables.lowerFrom before name).map nameChar = name.flatMap frontendChars := by
  induction name generalizing before with
  | nil => rfl
  | cons char after ih =>
      rw [UnicodeTables.lowerFrom, List.map_append, lower_at_name, ih, List.flatMap_cons]

theorem to_spark_app_name_chars :
    (toSparkAppName tables name).toList =
      ("cl-spark-".toList ++ name.toList.flatMap frontendChars).take 63 := by
  rw [toSparkAppName, String.toList_ofList, lower_from_name]

theorem agent_chars_small (small : char.toNat < 0x10000) :
    agentChars culture char = [nameChar (culture.lower char)] := by
  unfold agentChars
  rw [if_neg (by omega)]
  split
  · rfl
  · rename_i plain
    simp only [not_or] at plain
    unfold frontendChars
    rw [if_neg plain.2.1, if_neg plain.2.2]
    by_cases ascii : char.toNat < 128
    · rw [if_pos ascii, culture.lower_ascii char ascii plain.1]
    · rw [if_neg ascii,
        name_char_of_large (culture.lower_other char (by omega) plain.2.1 plain.2.2)]

theorem lower_units_name :
    (utf16Units (String.ofList [culture.lower char])).map
        (fun unit => if isNameCode unit then unit else 45) =
      (agentChars culture char).map Char.toNat := by
  have size := culture.lower_units char
  by_cases small : char.toNat < 0x10000
  · have named (code : Char) : (if isNameCode code.toNat then code.toNat else 45) =
        (nameChar code).toNat := by
      unfold nameChar
      split <;> rfl
    simp [utf16Units, agent_chars_small small, size.mpr small, named]
  · have large : ¬(culture.lower char).toNat < 0x10000 := fun lowered => small (size.mp lowered)
    have high (offset : Nat) : isNameCode (0xD800 + offset) = false :=
      is_name_code_of_large _ (by omega)
    have low (offset : Nat) : isNameCode (0xDC00 + offset) = false :=
      is_name_code_of_large _ (by omega)
    simp [utf16Units, agentChars, Nat.le_of_not_lt small, large, high, low]

theorem frontend_job_id_format_units :
    frontendJobIdFormat culture input =
      (("cl-spark-".toList ++ input.toList.flatMap (agentChars culture)).take 63).map
        Char.toNat := by
  have replaced : (utf16Units (culture.toLower input)).map
      (fun unit => if isNameCode unit then unit else 45) =
        (input.toList.flatMap (agentChars culture)).map Char.toNat := by
    unfold Culture.toLower
    induction input.toList with
    | nil => rfl
    | cons char chars ih =>
        have split : utf16Units (String.ofList (culture.lower char :: chars.map culture.lower)) =
            utf16Units (String.ofList [culture.lower char]) ++
              utf16Units (String.ofList (chars.map culture.lower)) := by
          simp [utf16Units]
        rw [List.map_cons, split, List.map_append, lower_units_name, ih, List.flatMap_cons,
          List.map_append]
  have marked : utf16Units "cl-spark-" = "cl-spark-".toList.map Char.toNat := by decide
  have cut (units : List Nat) :
      (if units.length > 63 then units.take 63 else units) = units.take 63 := by
    split
    · rfl
    · exact (List.take_of_length_le (by omega)).symm
  rw [frontendJobIdFormat, replaced, marked, ← List.map_append, cut, List.map_take]

/-- At most 63 lowercase letters, digits and hyphens, the last of them no hyphen. -/
structure IsDnsLabel (label : String) : Prop where
  short : label.toList.length ≤ 63
  chars : ∀ char ∈ label.toList, isNameCode char.toNat = true
  last : ∀ char ∈ label.toList.getLast?, char ≠ '-'

theorem frontend_chars_name :
    ∀ named ∈ frontendChars char, isNameCode named.toNat = true := by
  unfold frontendChars
  split_ifs
  · simp [is_name_code_name_char]
  · exact List.all_eq_true.mp (by decide)
  · exact List.all_eq_true.mp (by decide)
  · exact List.all_eq_true.mp (by decide)

theorem to_spark_app_name_codes :
    ∀ char ∈ (toSparkAppName tables name).toList, isNameCode char.toNat = true := by
  rw [to_spark_app_name_chars]
  intro char member
  rcases List.mem_append.mp (List.mem_of_mem_take member) with marked | named
  · exact List.all_eq_true.mp (by decide : ("cl-spark-".toList.all fun char =>
      isNameCode char.toNat) = true) char marked
  · rcases List.mem_flatMap.mp named with ⟨source, _, made⟩
    exact frontend_chars_name char made

theorem name_units (codes : ∀ char ∈ name.toList, isNameCode char.toNat = true) :
    utf16Units name = name.toList.map Char.toNat := by
  unfold utf16Units
  rw [← List.flatMap_singleton' (name.toList.map Char.toNat), List.flatMap_map]
  apply List.flatMap_congr
  intro char member
  have bounded := codes char member
  simp only [isNameCode, Bool.or_eq_true, Bool.and_eq_true, decide_eq_true_eq] at bounded
  have small : char.toNat < 0x10000 := by omega
  simp [small]

theorem formats_agree_iff :
    frontendJobIdFormat culture input = utf16Units (toSparkAppName tables input) ↔
      (input.toList.flatMap (agentChars culture)).take 54 =
        (input.toList.flatMap frontendChars).take 54 := by
  have marked : "cl-spark-".toList.length = 9 := rfl
  rw [name_units to_spark_app_name_codes, to_spark_app_name_chars,
    frontend_job_id_format_units, List.map_inj_right fun _ _ => Char.toNat_inj.mp]
  rw [List.take_append, List.take_append, marked, List.append_cancel_left_eq]

theorem dns_label_iff :
    IsDnsLabel (toSparkAppName tables input) ↔
      ∃ last ∈ ((input.toList.flatMap frontendChars).take 54).getLast?, last ≠ '-' := by
  have chars : (toSparkAppName tables input).toList =
      "cl-spark-".toList ++ (input.toList.flatMap frontendChars).take 54 := by
    rw [to_spark_app_name_chars, List.take_append]
    rfl
  have valid : IsDnsLabel (toSparkAppName tables input) ↔
      ∀ char ∈ (toSparkAppName tables input).toList.getLast?, char ≠ '-' := by
    constructor
    · exact IsDnsLabel.last
    · intro last
      refine ⟨?_, to_spark_app_name_codes, last⟩
      rw [to_spark_app_name_chars, List.length_take]
      omega
  rw [valid, chars, List.getLast?_append]
  cases ((input.toList.flatMap frontendChars).take 54).getLast? with
  | none =>
      -- Without a character of the input the name ends in the hyphen of its beginning.
      simp
  | some last => simp

/-- What the frontend makes of a character other than the dotted I. -/
def frontendChar (char : Char) : Char :=
  if char.toNat < 128 then nameChar char.toLower else if char = kelvinSign then 'k' else '-'

/-- Both formats make the same of the character. -/
structure SameChar (culture : Culture) (char : Char) : Prop where
  plain : char ≠ dottedI
  one_unit : char.toNat < 0x10000
  plain_i : char = 'I' → culture.lower 'I' = 'i'
  kelvin : char = kelvinSign → culture.lower kelvinSign = 'k'

def endsName (char : Char) : Bool := char.isAlphanum || char = kelvinSign

theorem frontend_chars_single (other : char ≠ dottedI) :
    frontendChars char = [frontendChar char] := by
  unfold frontendChars frontendChar
  rw [if_neg other]
  split_ifs <;> rfl

theorem frontend_char_ends (char : Char) : frontendChar char ≠ '-' ↔ endsName char = true := by
  have ascii : ∀ code < 128, (nameChar (Char.ofNat code).toLower ≠ '-' ↔
      endsName (Char.ofNat code) = true) := by decide
  unfold frontendChar
  split_ifs with small kelvin
  · have same := ascii char.toNat small
    rwa [Char.ofNat_toNat] at same
  · rw [kelvin]
    decide
  · simp only [ne_eq, not_true_eq_false, endsName, kelvin, decide_false, Bool.or_false, false_iff]
    delta Char.isAlphanum Char.isAlpha Char.isUpper Char.isLower Char.isDigit
    simp [UInt32.le_iff_toNat_le]
    omega

theorem frontend_take (chars : List Char) (number : Nat) (other : dottedI ∉ chars.take number) :
    (chars.flatMap frontendChars).take number = (chars.take number).map frontendChar := by
  induction chars generalizing number with
  | nil => simp
  | cons char chars induction =>
      cases number with
      | zero => rfl
      | succ number =>
          rw [List.take_succ_cons, List.mem_cons, not_or] at other
          rw [List.flatMap_cons, frontend_chars_single fun same => other.1 same.symm,
            List.singleton_append, List.take_succ_cons, List.take_succ_cons, List.map_cons,
            induction number other.2]

theorem agent_chars_same (same : SameChar culture char) :
    agentChars culture char = [frontendChar char] := by
  rw [← frontend_chars_single same.plain]
  unfold agentChars
  rw [if_neg (by have := same.one_unit; omega)]
  split
  next special =>
    rcases special with rfl | wrong | rfl
    · rw [same.plain_i rfl]
      decide
    · exact absurd wrong same.plain
    · rw [same.kelvin rfl]
      decide
  · rfl

theorem agent_take_same (chars : List Char) (number : Nat)
    (same : ∀ char ∈ chars.take number, SameChar culture char) :
    (chars.flatMap (agentChars culture)).take number = (chars.take number).map frontendChar := by
  induction chars generalizing number with
  | nil => simp
  | cons char chars induction =>
      cases number with
      | zero => rfl
      | succ number =>
          rw [List.take_succ_cons, List.forall_mem_cons] at same
          rw [List.flatMap_cons, agent_chars_same same.1, List.singleton_append,
            List.take_succ_cons, List.take_succ_cons, List.map_cons, induction number same.2]

/-- The formats agree on a valid label if, up to the place of the cut, no character is a dotted
I or beyond the first plane and the culture lowercases I and the sign for kelvin as usual, and
the character at the cut is a letter or a digit. -/
theorem job_id_formats_valid (culture : Culture) (tables : UnicodeTables) (input : String)
    (same : ∀ char ∈ input.toList.take 54, SameChar culture char)
    (ends : ∃ last ∈ (input.toList.take 54).getLast?, endsName last = true) :
    frontendJobIdFormat culture input = utf16Units (toSparkAppName tables input) ∧
      IsDnsLabel (toSparkAppName tables input) := by
  have other : dottedI ∉ input.toList.take 54 := fun member => (same _ member).plain rfl
  rw [formats_agree_iff, dns_label_iff, frontend_take _ _ other, agent_take_same _ _ same]
  refine ⟨rfl, ?_⟩
  obtain ⟨last, found, letter⟩ := ends
  rw [List.getLast?_map, Option.mem_def.mp found]
  simpa using (frontend_char_ends last).mpr letter

def sampleCulture : Culture where
  lower char := if char.toNat < 128 then char.toLower else char
  lower_ascii char ascii _ := if_pos ascii
  lower_other char large _ _ := by
    rw [if_neg (by omega)]
    exact large
  lower_units char := by
    have small : ∀ code < 128, (Char.ofNat code).toLower.toNat < 0x10000 := by decide
    split
    · rename_i ascii
      have lowered := small char.toNat ascii
      rw [Char.ofNat_toNat] at lowered
      omega
    · rfl

def sampleTables : UnicodeTables where
  lower _ _ _ := dotAbove
  lower_other _ _ _ := by decide

theorem sales_job_named :
    frontendJobIdFormat sampleCulture "Sales_2024-Q1" =
        utf16Units (toSparkAppName sampleTables "Sales_2024-Q1") ∧
      IsDnsLabel (toSparkAppName sampleTables "Sales_2024-Q1") := by
  refine job_id_formats_valid sampleCulture sampleTables "Sales_2024-Q1" ?_ ⟨'1', rfl, rfl⟩
  intro char member
  have ascii : ("Sales_2024-Q1".toList.all fun char => char ≠ dottedI ∧
      char.toNat < 0x10000 ∧ char ≠ 'I' ∧ char ≠ kelvinSign) = true := by decide
  obtain ⟨plain, small, notI, notKelvin⟩ := of_decide_eq_true
    (List.all_eq_true.mp ascii char (List.mem_of_mem_take member))
  exact ⟨plain, small, fun same => absurd same notI, fun same => absurd same notKelvin⟩

/-- A character beyond the first plane gives two hyphens or one, and no character at all
gives a name that ends in a hyphen. -/
theorem emoji_formats_differ :
    frontendJobIdFormat sampleCulture (String.singleton (Char.ofNat 0x1F600)) ≠
        utf16Units (toSparkAppName sampleTables (String.singleton (Char.ofNat 0x1F600))) ∧
      ¬ IsDnsLabel (toSparkAppName sampleTables "") := by
  rw [Ne, formats_agree_iff, dns_label_iff]
  refine ⟨by decide, ?_⟩
  simp

end CleanRoom.Analytics
