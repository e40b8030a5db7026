import CleanRoom.Library.JavaScript
import Mathlib.Algebra.Order.Ring.Rat
import Mathlib.Data.List.TakeWhile
import Mathlib.Tactic.Linarith
import Mathlib.Tactic.Ring

/-!
# Numbers and dates of JavaScript

`Number` and `parseInt` of a text, the clipping of a time value and the text of a date, as
ECMAScript defines them. A number is the rational value of the double; `NaN` is `none`, and
an infinity is a value beyond all doubles.
-/

namespace CleanRoom.JsNumber

open JavaScript

def infinite : Rat := (Nat.pow 2 1024 : Nat)

def pow2 (exponent : Int) : Rat :=
  if 0 ≤ exponent then (Nat.pow 2 exponent.toNat : Nat)
  else 1 / (Nat.pow 2 (-exponent).toNat : Nat)

def leadingExponent (value : Rat) : Int :=
  let estimate : Int := (value.num.natAbs.log2 : Int) - (value.den.log2 : Int)
  if pow2 estimate ≤ value then estimate else estimate - 1

def roundHalfEven (value : Rat) : Int :=
  let below := value.floor
  let rest := value - below
  if rest < 1 / 2 then below
  else if 1 / 2 < rest then below + 1
  else if below % 2 = 0 then below
  else below + 1

def roundPositive (value : Rat) : Rat :=
  let step := leadingExponent value - 52
  let exponent := if step < -1074 then -1074 else step
  let rounded := roundHalfEven (value / pow2 exponent) * pow2 exponent
  if infinite ≤ rounded then infinite else rounded

def double (value : Rat) : Rat :=
  if value.den = 1 ∧ value.num.natAbs < 9007199254740992 then value
  else if value < 0 then -roundPositive (-value)
  else roundPositive value

theorem double_natural (value : Nat) (small : value < 9007199254740992) :
    double (value : Rat) = value := by
  unfold double
  rw [if_pos ⟨Rat.den_natCast value, by rw [Rat.num_natCast]; exact small⟩]

def isSpace (char : Char) : Bool :=
  let code := char.toNat
  (9 ≤ code && code ≤ 13) || code = 0x20 || code = 0xA0 || code = 0x1680 ||
    (0x2000 ≤ code && code ≤ 0x200A) || code = 0x2028 || code = 0x2029 || code = 0x202F ||
    code = 0x205F || code = 0x3000 || code = 0xFEFF

def trimStart (chars : List Char) : List Char := chars.dropWhile isSpace

def trimChars (chars : List Char) : List Char := (trimStart (trimStart chars).reverse).reverse

def trim (text : String) : String := String.ofList (trimChars text.toList)

def digitValue (char : Char) : Nat :=
  if char.isDigit then char.toNat - 48
  else if 97 ≤ char.toNat ∧ char.toNat ≤ 122 then char.toNat - 87
  else if 65 ≤ char.toNat ∧ char.toNat ≤ 90 then char.toNat - 55
  else 36

def valueOf (radix : Nat) (digits : List Char) : Nat :=
  digits.foldl (fun value char => radix * value + digitValue char) 0

/-- The radix of a literal that begins with `0` and this character. -/
def radixOf (char : Char) : Option Nat :=
  if char = 'x' ∨ char = 'X' then some 16
  else if char = 'o' ∨ char = 'O' then some 8
  else if char = 'b' ∨ char = 'B' then some 2
  else none

def isDigitOf (radix : Nat) (char : Char) : Bool := digitValue char < radix

def radixLiteral (radix : Nat) (digits : List Char) : Option Rat :=
  if digits.isEmpty || !digits.all (isDigitOf radix) then none
  else some (valueOf radix digits : Nat)

def exponentPart : List Char → Option Int
  | [] => some 0
  | marker :: rest =>
      if marker = 'e' ∨ marker = 'E' then
        let (negative, digits) := match rest with
          | '-' :: digits => (true, digits)
          | '+' :: digits => (false, digits)
          | digits => (false, digits)
        if digits.isEmpty || !digits.all Char.isDigit then none
        else some (if negative then -(valueOf 10 digits : Int) else valueOf 10 digits)
      else none

def scaled (mantissa : Nat) (exponent : Int) : Rat :=
  if 0 ≤ exponent then (mantissa * Nat.pow 10 exponent.toNat : Nat)
  else mantissa / (Nat.pow 10 (-exponent).toNat : Nat)

def fractionPart : List Char → List Char × List Char
  | '.' :: rest => rest.span Char.isDigit
  | rest => ([], rest)

def decimalLiteral (chars : List Char) : Option Rat :=
  let whole := chars.takeWhile Char.isDigit
  let fraction := fractionPart (chars.dropWhile Char.isDigit)
  if whole.isEmpty && fraction.1.isEmpty then none
  else (exponentPart fraction.2).map fun exponent =>
    scaled (valueOf 10 (whole ++ fraction.1)) (exponent - fraction.1.length)

def unsignedLiteral (chars : List Char) : Option Rat :=
  if chars = "Infinity".toList then some infinite else decimalLiteral chars

def signedLiteral : List Char → Option Rat
  | '-' :: chars => (unsignedLiteral chars).map fun value => -value
  | '+' :: chars => unsignedLiteral chars
  | chars => unsignedLiteral chars

def numericLiteral : List Char → Option Rat
  | [] => some 0
  | '0' :: marker :: digits =>
      match radixOf marker with
      | some radix => radixLiteral radix digits
      | none => signedLiteral ('0' :: marker :: digits)
  | chars => signedLiteral chars

def ofText (text : String) : Option Rat := (numericLiteral (trimChars text.toList)).map double

def truncate (value : Rat) : Int := if value < 0 then value.ceil else value.floor

/-- `TimeClip`: the time value of a date, in milliseconds. -/
def timeClip : Option Rat → Option Int
  | some time =>
      if -8640000000000000 ≤ time ∧ time ≤ 8640000000000000 then some (truncate time) else none
  | none => none

def civilDate (day : Int) : Int × Nat × Nat :=
  let shifted := day + 719468
  let era := shifted / 146097
  let dayOfEra := (shifted % 146097).toNat
  let yearOfEra := (dayOfEra - dayOfEra / 1460 + dayOfEra / 36524 - dayOfEra / 146096) / 365
  let dayOfYear := dayOfEra - (365 * yearOfEra + yearOfEra / 4 - yearOfEra / 100)
  let monthFromMarch := (5 * dayOfYear + 2) / 153
  let month := if monthFromMarch < 10 then monthFromMarch + 3 else monthFromMarch - 9
  let year := yearOfEra + era * 400
  (if month ≤ 2 then year + 1 else year, month, dayOfYear - (153 * monthFromMarch + 2) / 5 + 1)

def padded (width number : Nat) : String :=
  String.ofList (List.replicate (width - (toString number).toList.length) '0') ++ toString number

def yearText (year : Int) : String :=
  if 0 ≤ year ∧ year ≤ 9999 then padded 4 year.toNat
  else if year < 0 then "-" ++ padded 6 (-year).toNat
  else "+" ++ padded 6 year.toNat

def isoString (time : Int) : String :=
  let (year, month, day) := civilDate (time / 86400000)
  let within := (time % 86400000).toNat
  yearText year ++ "-" ++ padded 2 month ++ "-" ++ padded 2 day ++ "T" ++
    padded 2 (within / 3600000) ++ ":" ++ padded 2 (within / 60000 % 60) ++ ":" ++
    padded 2 (within / 1000 % 60) ++ "." ++ padded 3 (within % 1000) ++ "Z"

example : isoString 1709208000001 = "2024-02-29T12:00:00.001Z" := by decide +kernel

theorem time_clip_natural (time : Nat) (small : time ≤ 8640000000000000) :
    timeClip (some (time : Rat)) = some (time : Int) := by
  have above : (0 : Rat) ≤ time := Nat.cast_nonneg time
  have below : (time : Rat) ≤ 8640000000000000 := by exact_mod_cast small
  simp only [timeClip, truncate]
  rw [if_pos ⟨by linarith, below⟩, if_neg (not_lt.mpr above), Rat.floor,
    if_pos (Rat.den_natCast time), Rat.num_natCast]

theorem digit_not_space (char : Char) (digit : char.isDigit = true) : isSpace char = false := by
  have bounds : 48 ≤ char.toNat ∧ char.toNat ≤ 57 := by
    simpa [Char.isDigit, UInt32.le_iff_toNat_le] using digit
  unfold isSpace
  simp only [Bool.or_eq_false_iff, Bool.and_eq_false_iff, decide_eq_false_iff_not]
  omega

theorem digit_value (char : Char) (digit : char.isDigit = true) :
    digitValue char = char.toNat - 48 ∧ digitValue char < 10 := by
  have bounds : 48 ≤ char.toNat ∧ char.toNat ≤ 57 := by
    simpa [Char.isDigit, UInt32.le_iff_toNat_le] using digit
  unfold digitValue
  rw [if_pos digit]
  omega

def IsDigits (chars : List Char) : Prop := chars ≠ [] ∧ ∀ char ∈ chars, char.isDigit = true

theorem trim_start_digits (chars : List Char) (digits : ∀ char ∈ chars, char.isDigit = true) :
    trimStart chars = chars := by
  cases chars with
  | nil => rfl
  | cons char chars =>
      have first := digit_not_space char (digits char List.mem_cons_self)
      rw [trimStart, List.dropWhile_cons_of_neg (by simp [first])]

theorem trim_digits (chars : List Char) (digits : ∀ char ∈ chars, char.isDigit = true) :
    trimChars chars = chars := by
  unfold trimChars
  rw [trim_start_digits chars digits, trim_start_digits, List.reverse_reverse]
  intro char member
  exact digits char (List.mem_reverse.mp member)

theorem not_digit_of_radix (marker : Char) (radix : Nat) (found : radixOf marker = some radix) :
    marker.isDigit = false := by
  unfold radixOf at found
  split at found
  next hex => rcases hex with rfl | rfl <;> decide
  · split at found
    next octal => rcases octal with rfl | rfl <;> decide
    · split at found
      next binary => rcases binary with rfl | rfl <;> decide
      · cases found

theorem unsigned_digits (chars : List Char) (digits : IsDigits chars) :
    unsignedLiteral chars = some ((valueOf 10 chars : Nat) : Rat) := by
  have notInfinity : chars ≠ "Infinity".toList := by
    rintro rfl
    exact absurd (digits.2 'I' (by decide)) (by decide)
  have whole : chars.takeWhile Char.isDigit = chars := List.takeWhile_eq_self_iff.mpr digits.2
  have nothing : chars.dropWhile Char.isDigit = [] := List.dropWhile_eq_nil_iff.mpr digits.2
  have some : chars.isEmpty = false := by simpa using digits.1
  unfold unsignedLiteral decimalLiteral
  rw [if_neg notInfinity, whole, nothing]
  simp [fractionPart, exponentPart, scaled, some]

theorem signed_digits (chars : List Char) (digits : IsDigits chars) :
    signedLiteral chars = some ((valueOf 10 chars : Nat) : Rat) := by
  unfold signedLiteral
  split
  · exact absurd (digits.2 '-' List.mem_cons_self) (by decide)
  · exact absurd (digits.2 '+' List.mem_cons_self) (by decide)
  · exact unsigned_digits _ digits

theorem numeric_digits (chars : List Char) (digits : IsDigits chars) :
    numericLiteral chars = some ((valueOf 10 chars : Nat) : Rat) := by
  unfold numericLiteral
  split
  · exact absurd rfl digits.1
  next marker rest =>
    have digit := digits.2 marker (List.mem_cons_of_mem _ List.mem_cons_self)
    split
    next radix found =>
      rw [not_digit_of_radix marker radix found] at digit
      cases digit
    · exact signed_digits _ digits
  · exact signed_digits _ digits

theorem of_text_digits (text : String) (digits : IsDigits text.toList)
    (small : valueOf 10 text.toList < 9007199254740992) :
    ofText text = some ((valueOf 10 text.toList : Nat) : Rat) := by
  unfold ofText
  rw [trim_digits _ digits.2, numeric_digits _ digits, Option.map_some, double_natural _ small]

private theorem value_fold (digits : List Char) (start : Nat) :
    digits.foldl (fun value char => 10 * value + digitValue char) start =
      start * 10 ^ digits.length + valueOf 10 digits := by
  unfold valueOf
  induction digits generalizing start with
  | nil => simp
  | cons digit digits ih =>
      rw [List.foldl_cons, List.foldl_cons, ih, ih (10 * 0 + digitValue digit), List.length_cons]
      ring

theorem value_cons (digit : Char) (digits : List Char) :
    valueOf 10 (digit :: digits) = digitValue digit * 10 ^ digits.length + valueOf 10 digits := by
  rw [← value_fold digits (digitValue digit), valueOf, List.foldl_cons, Nat.mul_zero, Nat.zero_add]

theorem value_zeros (count : Nat) (digits : List Char) :
    valueOf 10 (List.replicate count '0' ++ digits) = valueOf 10 digits := by
  induction count with
  | zero => rfl
  | succ count ih =>
      rw [List.replicate_succ, List.cons_append, value_cons, ih]
      have zero : digitValue '0' = 0 := by decide
      rw [zero, Nat.zero_mul, Nat.zero_add]

theorem value_lt (digits : List Char) (all : ∀ char ∈ digits, char.isDigit = true) :
    valueOf 10 digits < 10 ^ digits.length := by
  induction digits with
  | nil => decide
  | cons digit digits ih =>
      obtain ⟨here, later⟩ := List.forall_mem_cons.mp all
      have small := (digit_value digit here).2
      have rest := ih later
      rw [value_cons, List.length_cons, pow_succ]
      nlinarith

theorem value_of_number (number : Nat) : valueOf 10 (toString number).toList = number := by
  have digits : (toString number).toList = Nat.toDigits 10 number := Nat.toList_repr
  rw [digits]
  have same : ∀ chars : List Char, (∀ char ∈ chars, char.isDigit = true) → ∀ start,
      chars.foldl (fun value char => 10 * value + digitValue char) start =
        Nat.ofDigitChars 10 chars start := by
    intro chars
    induction chars with
    | nil => exact fun _ _ => rfl
    | cons char chars ih =>
        intro all start
        obtain ⟨here, later⟩ := List.forall_mem_cons.mp all
        rw [List.foldl_cons, Nat.ofDigitChars_cons, ih later, (digit_value char here).1]
        rfl
  unfold valueOf
  rw [same _ fun char member => Nat.isDigit_of_mem_toDigits (by decide) (by decide) member]
  exact Nat.ofDigitChars_ten_toDigits

theorem number_digits (number : Nat) : IsDigits (toString number).toList := by
  have digits : (toString number).toList = Nat.toDigits 10 number := Nat.toList_repr
  rw [digits]
  exact ⟨Nat.toDigits_ne_nil,
    fun char member => Nat.isDigit_of_mem_toDigits (by decide) (by decide) member⟩

def unitsBelow : List Nat → List Nat → Bool
  | _, [] => false
  | [], _ :: _ => true
  | left :: lefts, right :: rights =>
      decide (left < right) || (decide (left = right) && unitsBelow lefts rights)

def textBelow (left right : String) : Bool := unitsBelow (utf16Units left) (utf16Units right)

theorem units_of_digits (text : String) (all : ∀ char ∈ text.toList, char.isDigit = true) :
    utf16Units text = text.toList.map Char.toNat := by
  unfold utf16Units
  generalize text.toList = chars at all
  induction chars with
  | nil => rfl
  | cons char chars ih =>
      obtain ⟨here, later⟩ := List.forall_mem_cons.mp all
      have bounds : 48 ≤ char.toNat ∧ char.toNat ≤ 57 := by
        simpa [Char.isDigit, UInt32.le_iff_toNat_le] using here
      have small : char.toNat < 0x10000 := by omega
      rw [List.flatMap_cons, ih later]
      simp [small]

theorem units_below_iff (left right : List Char) (same : left.length = right.length)
    (leftDigits : ∀ char ∈ left, char.isDigit = true)
    (rightDigits : ∀ char ∈ right, char.isDigit = true) :
    unitsBelow (left.map Char.toNat) (right.map Char.toNat) = true ↔
      valueOf 10 left < valueOf 10 right := by
  induction left generalizing right with
  | nil =>
      cases right with
      | nil => simp [unitsBelow]
      | cons digit digits => cases same
  | cons first left ih =>
      cases right with
      | nil => cases same
      | cons second right =>
          obtain ⟨firstDigit, leftRest⟩ := List.forall_mem_cons.mp leftDigits
          obtain ⟨secondDigit, rightRest⟩ := List.forall_mem_cons.mp rightDigits
          have lengths : left.length = right.length := by simpa using same
          have leftSmall := value_lt left leftRest
          have rightSmall := value_lt right rightRest
          have firstBounds : 48 ≤ first.toNat ∧ first.toNat ≤ 57 := by
            simpa [Char.isDigit, UInt32.le_iff_toNat_le] using firstDigit
          have secondBounds : 48 ≤ second.toNat ∧ second.toNat ≤ 57 := by
            simpa [Char.isDigit, UInt32.le_iff_toNat_le] using secondDigit
          rw [value_cons, value_cons, (digit_value first firstDigit).1,
            (digit_value second secondDigit).1, lengths]
          rw [lengths] at leftSmall
          simp only [List.map_cons, unitsBelow, Bool.or_eq_true, Bool.and_eq_true,
            decide_eq_true_eq, ih right lengths leftRest rightRest]
          -- A digit outweighs all the digits after it.
          constructor
          · rintro (below | ⟨equal, below⟩)
            · have gap : first.toNat - 48 + 1 ≤ second.toNat - 48 := by omega
              have scaledGap := Nat.mul_le_mul_right (10 ^ right.length) gap
              rw [Nat.add_mul, Nat.one_mul] at scaledGap
              omega
            · rw [equal]
              omega
          · intro below
            rcases Nat.lt_trichotomy first.toNat second.toNat with less | equal | more
            · exact Or.inl less
            · rw [equal] at below
              exact Or.inr ⟨equal, by omega⟩
            · have gap : second.toNat - 48 + 1 ≤ first.toNat - 48 := by omega
              have scaledGap := Nat.mul_le_mul_right (10 ^ right.length) gap
              rw [Nat.add_mul, Nat.one_mul] at scaledGap
              omega

theorem units_below_total (left right : List Nat) (notBelow : unitsBelow left right ≠ true)
    (notAbove : unitsBelow right left ≠ true) : left = right := by
  induction left generalizing right with
  | nil =>
      cases right with
      | nil => rfl
      | cons unit units => exact absurd rfl notBelow
  | cons unit units ih =>
      cases right with
      | nil => exact absurd rfl notAbove
      | cons other others =>
          simp only [ne_eq, unitsBelow, Bool.or_eq_true, Bool.and_eq_true, decide_eq_true_eq,
            not_or, not_and] at notBelow notAbove
          have same : unit = other := by omega
          rw [same, ih others (notBelow.2 same) (notAbove.2 same.symm)]

theorem digits_of_units (text : String) (units : ∀ unit ∈ utf16Units text, 48 ≤ unit ∧ unit ≤ 57) :
    ∀ char ∈ text.toList, char.isDigit = true := by
  intro char member
  have bounds : 48 ≤ char.toNat ∧ char.toNat ≤ 57 := by
    by_cases small : char.toNat < 0x10000
    · apply units
      apply List.mem_flatMap.mpr
      exact ⟨char, member, by simp [small]⟩
    · have high := units (0xD800 + (char.toNat - 0x10000) / 0x400)
        (List.mem_flatMap.mpr ⟨char, member, by simp [small]⟩)
      omega
  simpa [Char.isDigit, UInt32.le_iff_toNat_le] using bounds

end CleanRoom.JsNumber
