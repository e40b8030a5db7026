import CleanRoom.Library.Encodings
import CleanRoom.Library.JsNumber

/-!
# Texts of .NET

`Encoding.ASCII` and the parsing of 32-bit integers, as the .NET libraries define them for
the invariant culture. A character that is not ASCII is replaced by a question mark for
each of its UTF-16 units. An integer may stand between white space, and null characters
may follow it.
-/

namespace CleanRoom.DotNetText

open ByteFile Encodings JsNumber

def isAscii (char : Char) : Bool := char.toNat < 128

def asciiReplacement (char : Char) : List Char :=
  if isAscii char then [char] else if char.toNat < 0x10000 then ['?'] else ['?', '?']

def asciiChars (chars : List Char) : List Char := chars.flatMap asciiReplacement

/-- `Encoding.ASCII.GetBytes` -/
def asciiGetBytes (text : String) : Bytes :=
  (asciiChars text.toList).map fun char => UInt8.ofNat char.toNat

theorem ascii_chars_ascii (chars : List Char) :
    ∀ char ∈ asciiChars chars, isAscii char = true := by
  intro char member
  obtain ⟨source, _, written⟩ := List.mem_flatMap.mp member
  unfold asciiReplacement at written
  split at written
  next ascii =>
    cases List.mem_singleton.mp written
    exact ascii
  next =>
    have mark : char = '?' := by
      split at written <;> simpa using written
    cases mark
    decide

theorem ascii_chars_eq_self (chars : List Char) :
    asciiChars chars = chars ↔ ∀ char ∈ chars, isAscii char = true := by
  constructor
  · intro same char member
    rw [← same] at member
    exact ascii_chars_ascii chars char member
  · intro ascii
    induction chars with
    | nil => rfl
    | cons char chars ih =>
        have here : asciiReplacement char = [char] := if_pos (ascii char List.mem_cons_self)
        have rest := ih fun other member => ascii other (List.mem_cons_of_mem _ member)
        rw [asciiChars, List.flatMap_cons, here, ← asciiChars, rest]
        rfl

theorem utf8_encode_ascii (char : Char) (ascii : isAscii char = true) :
    String.utf8EncodeChar char = [UInt8.ofNat char.toNat] := by
  have small : char.val.toNat ≤ 127 := Nat.le_of_lt_succ (of_decide_eq_true ascii)
  unfold String.utf8EncodeChar
  simp only [if_pos small]
  rfl

theorem utf8_get_string_ascii (text : String) :
    utf8GetString (asciiGetBytes text) = String.ofList (asciiChars text.toList) := by
  have encoded : ∀ chars : List Char, (∀ char ∈ chars, isAscii char = true) →
      chars.map (fun char => UInt8.ofNat char.toNat) = chars.flatMap String.utf8EncodeChar := by
    intro chars ascii
    induction chars with
    | nil => rfl
    | cons char chars ih =>
        rw [List.map_cons, List.flatMap_cons, utf8_encode_ascii char (ascii _ List.mem_cons_self),
          ih fun other member => ascii other (List.mem_cons_of_mem _ member)]
        rfl
  have bytes : asciiGetBytes text =
      utf8GetBytes (String.ofList (asciiChars text.toList)) := by
    rw [utf8_get_bytes, String.toList_ofList, asciiGetBytes,
      encoded _ (ascii_chars_ascii text.toList)]
  rw [bytes, utf8_get_string_bytes]

theorem ascii_read_back_iff (text : String) :
    utf8GetString (asciiGetBytes text) = text ↔ ∀ char ∈ text.toList, isAscii char = true := by
  rw [utf8_get_string_ascii, ← ascii_chars_eq_self]
  constructor
  · intro same
    have chars := congrArg String.toList same
    rwa [String.toList_ofList] at chars
  · intro same
    rw [same, String.ofList_toList]

def isWhite (char : Char) : Bool := char.toNat = 0x20 || (9 ≤ char.toNat && char.toNat ≤ 13)

def leadingSign : List Char → Bool × List Char
  | '-' :: rest => (true, rest)
  | '+' :: rest => (false, rest)
  | chars => (false, chars)

def signedValue (negative : Bool) (digits : List Char) : Int :=
  if negative then -(valueOf 10 digits : Int) else valueOf 10 digits

def IsInt32 (value : Int) : Prop := -2147483648 ≤ value ∧ value ≤ 2147483647

instance (value : Int) : Decidable (IsInt32 value) := inferInstanceAs (Decidable (_ ∧ _))

/-- `int.TryParse` -/
def int32TryParse (text : String) : Option Int :=
  let (negative, unsigned) := leadingSign (text.toList.dropWhile isWhite)
  let digits := unsigned.takeWhile Char.isDigit
  let trailing := (unsigned.dropWhile Char.isDigit).dropWhile isWhite
  let value := signedValue negative digits
  if digits.isEmpty || !trailing.all (· == '\x00') then none
  else if IsInt32 value then some value
  else none

theorem digit_not_white (char : Char) (digit : char.isDigit = true) : isWhite char = false := by
  have bounds : 48 ≤ char.toNat ∧ char.toNat ≤ 57 := by
    simpa [Char.isDigit, UInt32.le_iff_toNat_le] using digit
  unfold isWhite
  simp only [Bool.or_eq_false_iff, Bool.and_eq_false_iff, decide_eq_false_iff_not]
  omega

theorem take_digits (chars : List Char) (digits : IsDigits chars) :
    chars.takeWhile Char.isDigit = chars ∧ chars.dropWhile Char.isDigit = [] :=
  ⟨List.takeWhile_eq_self_iff.mpr digits.2, List.dropWhile_eq_nil_iff.mpr digits.2⟩

theorem int32_try_parse_digits (text : String) (negative : Bool) (digits : List Char)
    (all : IsDigits digits)
    (signed : leadingSign (text.toList.dropWhile isWhite) = (negative, digits)) :
    int32TryParse text =
      if IsInt32 (signedValue negative digits) then some (signedValue negative digits)
      else none := by
  have notEmpty : digits.isEmpty = false := by simpa using all.1
  unfold int32TryParse
  rw [signed]
  simp only [(take_digits digits all).1, (take_digits digits all).2, notEmpty,
    List.dropWhile_nil, List.all_nil]
  rfl

theorem leading_sign_digits (digits : List Char) (all : IsDigits digits) :
    leadingSign (digits.dropWhile isWhite) = (false, digits) := by
  obtain ⟨nonempty, isDigit⟩ := all
  cases digits with
  | nil => exact absurd rfl nonempty
  | cons digit rest =>
      have here := isDigit digit List.mem_cons_self
      rw [List.dropWhile_cons_of_neg (by rw [digit_not_white digit here]; decide)]
      unfold leadingSign
      split
      next same =>
        cases (List.cons.inj same).1
        exact absurd here (by decide)
      next same =>
        cases (List.cons.inj same).1
        exact absurd here (by decide)
      next => rfl

theorem int32_try_parse_number (number : Int) :
    int32TryParse (toString number) = if IsInt32 number then some number else none := by
  cases number with
  | ofNat value =>
      have signed := leading_sign_digits _ (number_digits value)
      have parsed := int32_try_parse_digits (toString (Int.ofNat value)) false _
        (number_digits value) signed
      have same : signedValue false (toString value).toList = Int.ofNat value := by
        change ((valueOf 10 (toString value).toList : Nat) : Int) = _
        rw [value_of_number]
        rfl
      rwa [same] at parsed
  | negSucc value =>
      have written : (toString (Int.negSucc value)).toList =
          '-' :: (toString (value + 1)).toList := by
        change ("-" ++ toString (value + 1)).toList = _
        rw [String.toList_append]
        rfl
      have signed : leadingSign ((toString (Int.negSucc value)).toList.dropWhile isWhite) =
          (true, (toString (value + 1)).toList) := by
        rw [written, List.dropWhile_cons_of_neg (by decide)]
        rfl
      have parsed := int32_try_parse_digits _ true _ (number_digits (value + 1)) signed
      have same : signedValue true (toString (value + 1)).toList = Int.negSucc value := by
        change -((valueOf 10 (toString (value + 1)).toList : Nat) : Int) = _
        rw [value_of_number]
        rfl
      rwa [same] at parsed

end CleanRoom.DotNetText
