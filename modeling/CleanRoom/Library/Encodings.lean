import CleanRoom.Library.ByteFile
import Mathlib.Data.List.Forall2
import Mathlib.Tactic.SplitIfs

/-!
# Encodings of bytes and text

Base64 and UTF-8 as the .NET library reads and writes them, and the search for marked
blocks in a text. Strings are lists of scalar values here, so a lone surrogate does not
occur. Reading UTF-8 never fails: an ill-formed part becomes a replacement character.
-/

namespace CleanRoom.Encodings

open ByteFile

def base64Char (value : Nat) : Char :=
  if value < 26 then Char.ofNat (65 + value)
  else if value < 52 then Char.ofNat (71 + value)
  else if value < 62 then Char.ofNat (value - 4)
  else if value = 62 then '+'
  else '/'

def base64Value (char : Char) : Option Nat :=
  let code := char.toNat
  if 65 ≤ code ∧ code ≤ 90 then some (code - 65)
  else if 97 ≤ code ∧ code ≤ 122 then some (code - 71)
  else if 48 ≤ code ∧ code ≤ 57 then some (code + 4)
  else if char = '+' then some 62
  else if char = '/' then some 63
  else none

def base64Chars : Bytes → List Char
  | [] => []
  | [a] => [base64Char (a.toNat / 4), base64Char (a.toNat % 4 * 16), '=', '=']
  | [a, b] =>
      [base64Char (a.toNat / 4), base64Char (a.toNat % 4 * 16 + b.toNat / 16),
        base64Char (b.toNat % 16 * 4), '=']
  | a :: b :: c :: rest =>
      base64Char (a.toNat / 4) :: base64Char (a.toNat % 4 * 16 + b.toNat / 16) ::
        base64Char (b.toNat % 16 * 4 + c.toNat / 64) :: base64Char (c.toNat % 64) ::
        base64Chars rest

/-- The bytes of groups of four characters. Only the last group may be padded, and the
bits behind its last byte are not looked at. -/
def base64Bytes : List Char → Option Bytes
  | [] => some []
  | first :: second :: third :: fourth :: rest => do
      let a ← base64Value first
      let b ← base64Value second
      let high := UInt8.ofNat (a * 4 + b / 16)
      if rest = [] ∧ fourth = '=' then
        if third = '=' then some [high]
        else do
          let c ← base64Value third
          some [high, UInt8.ofNat (b % 16 * 16 + c / 4)]
      else do
        let c ← base64Value third
        let d ← base64Value fourth
        let bytes ← base64Bytes rest
        some (high :: UInt8.ofNat (b % 16 * 16 + c / 4) :: UInt8.ofNat (c % 4 * 64 + d) :: bytes)
  | _ => none

def isBase64Space (char : Char) : Bool :=
  char == ' ' || char == '\t' || char == '\n' || char == '\r'

def badBase64 : String :=
  "The input is not a valid Base-64 string as it contains a non-base 64 character, more than " ++
    "two padding characters, or an illegal character among the padding characters."

def toBase64String (bytes : Bytes) : String := String.ofList (base64Chars bytes)

def fromBase64String (text : String) : Except String Bytes :=
  match base64Bytes (text.toList.filter fun char => !isBase64Space char) with
  | some bytes => .ok bytes
  | none => .error badBase64

theorem base64_digit (value : Nat) (small : value < 64) :
    base64Value (base64Char value) = some value ∧ base64Char value ≠ '=' ∧
      isBase64Space (base64Char value) = false := by
  have digits : ∀ value < 64, base64Value (base64Char value) = some value ∧
      base64Char value ≠ '=' ∧ isBase64Space (base64Char value) = false := by decide +kernel
  exact digits value small

private theorem ofNat_of_eq (byte : UInt8) (value : Nat) (same : value = byte.toNat) :
    UInt8.ofNat value = byte := by
  rw [same, UInt8.ofNat_toNat]

theorem base64_bytes_chars (bytes : Bytes) : base64Bytes (base64Chars bytes) = some bytes := by
  fun_induction base64Chars bytes with
  | case1 => rfl
  | case2 a =>
      have aBound := a.toNat_lt
      rw [base64Bytes, (base64_digit (a.toNat / 4) (by omega)).1,
        (base64_digit (a.toNat % 4 * 16) (by omega)).1]
      simp only [Option.bind_eq_bind, Option.bind_some, and_self, if_true]
      rw [ofNat_of_eq a _ (by omega)]
  | case3 a b =>
      have aBound := a.toNat_lt
      have bBound := b.toNat_lt
      obtain ⟨third, notPadding, _⟩ := base64_digit (b.toNat % 16 * 4) (by omega)
      rw [base64Bytes, (base64_digit (a.toNat / 4) (by omega)).1,
        (base64_digit (a.toNat % 4 * 16 + b.toNat / 16) (by omega)).1, third]
      simp only [Option.bind_eq_bind, Option.bind_some, and_self, if_true, if_neg notPadding]
      rw [ofNat_of_eq a _ (by omega), ofNat_of_eq b _ (by omega)]
  | case4 a b c rest ih =>
      have aBound := a.toNat_lt
      have bBound := b.toNat_lt
      have cBound := c.toNat_lt
      obtain ⟨fourth, notPadding, _⟩ := base64_digit (c.toNat % 64) (by omega)
      rw [base64Bytes, (base64_digit (a.toNat / 4) (by omega)).1,
        (base64_digit (a.toNat % 4 * 16 + b.toNat / 16) (by omega)).1,
        (base64_digit (b.toNat % 16 * 4 + c.toNat / 64) (by omega)).1, fourth, ih]
      simp only [Option.bind_eq_bind, Option.bind_some, notPadding, and_false, if_false]
      rw [ofNat_of_eq a _ (by omega), ofNat_of_eq b _ (by omega), ofNat_of_eq c _ (by omega)]

theorem base64_chars_alphabet (bytes : Bytes) :
    ∀ char ∈ base64Chars bytes, char = '=' ∨ ∃ value < 64, char = base64Char value := by
  have digit (value : Nat) (small : value < 64) :
      base64Char value = '=' ∨ ∃ other < 64, base64Char value = base64Char other :=
    .inr ⟨value, small, rfl⟩
  fun_induction base64Chars bytes with
  | case1 => simp
  | case2 a =>
      have aBound := a.toNat_lt
      simp only [List.forall_mem_cons]
      exact ⟨digit _ (by omega), digit _ (by omega), .inl trivial, .inl trivial,
        List.forall_mem_nil _⟩
  | case3 a b =>
      have aBound := a.toNat_lt
      have bBound := b.toNat_lt
      simp only [List.forall_mem_cons]
      exact ⟨digit _ (by omega), digit _ (by omega), digit _ (by omega), .inl trivial,
        List.forall_mem_nil _⟩
  | case4 a b c rest ih =>
      have aBound := a.toNat_lt
      have bBound := b.toNat_lt
      have cBound := c.toNat_lt
      simp only [List.forall_mem_cons]
      exact ⟨digit _ (by omega), digit _ (by omega), digit _ (by omega), digit _ (by omega), ih⟩

theorem base64_chars_no_space (bytes : Bytes) :
    ∀ char ∈ base64Chars bytes, isBase64Space char = false := by
  intro char member
  rcases base64_chars_alphabet bytes char member with rfl | ⟨value, small, rfl⟩
  · decide
  · exact (base64_digit value small).2.2

@[simp] theorem from_base64_to_base64 (bytes : Bytes) :
    fromBase64String (toBase64String bytes) = .ok bytes := by
  have kept : (base64Chars bytes).filter (fun char => !isBase64Space char) =
      base64Chars bytes := by
    apply List.filter_eq_self.mpr
    intro char member
    rw [base64_chars_no_space bytes char member]
    rfl
  rw [fromBase64String, toBase64String, String.toList_ofList, kept, base64_bytes_chars]

def utf8GetBytes (text : String) : Bytes := text.toUTF8.data.toList

def utf8Ranges (lead : Nat) : Option (List (Nat × Nat)) :=
  let any := (0x80, 0xBF)
  if lead < 0x80 then some []
  else if 0xC2 ≤ lead ∧ lead ≤ 0xDF then some [any]
  else if lead = 0xE0 then some [(0xA0, 0xBF), any]
  else if lead = 0xED then some [(0x80, 0x9F), any]
  else if 0xE1 ≤ lead ∧ lead ≤ 0xEF then some [any, any]
  else if lead = 0xF0 then some [(0x90, 0xBF), any, any]
  else if 0xF1 ≤ lead ∧ lead ≤ 0xF3 then some [any, any, any]
  else if lead = 0xF4 then some [(0x80, 0x8F), any, any]
  else none

def utf8Following : List (Nat × Nat) → Bytes → List Nat
  | (low, high) :: ranges, byte :: rest =>
      if low ≤ byte.toNat ∧ byte.toNat ≤ high then byte.toNat :: utf8Following ranges rest else []
  | _, _ => []

def utf8Scalar (lead : Nat) (following : List Nat) : Nat :=
  let bits := match following.length with
    | 0 => lead
    | 1 => lead % 32
    | 2 => lead % 16
    | _ => lead % 8
  following.foldl (fun value byte => value * 64 + byte % 64) bits

def utf8Chars : Nat → Bytes → List Char
  | fuel + 1, lead :: rest =>
      match utf8Ranges lead.toNat with
      | none => Char.ofNat 0xFFFD :: utf8Chars fuel rest
      | some ranges =>
          let following := utf8Following ranges rest
          let char := if following.length = ranges.length then utf8Scalar lead.toNat following
            else 0xFFFD
          Char.ofNat char :: utf8Chars fuel (rest.drop following.length)
  | _, _ => []

def utf8GetString (bytes : Bytes) : String := String.ofList (utf8Chars bytes.length bytes)

/-! Reading gives back what was written. -/

theorem to_nat_of_small (value : Nat) (small : value < 256) : (UInt8.ofNat value).toNat = value :=
  UInt8.toNat_ofNat_of_lt small

def InRanges (ranges : List (Nat × Nat)) (values : List Nat) : Prop :=
  List.Forall₂ (fun range value => range.1 ≤ value ∧ value ≤ range.2 ∧ range.2 < 192) ranges values

theorem utf8_following_in_ranges (ranges : List (Nat × Nat)) (values : List Nat) (rest : Bytes)
    (inRanges : InRanges ranges values) :
    utf8Following ranges (values.map UInt8.ofNat ++ rest) = values := by
  induction inRanges with
  | nil => cases rest <;> rfl
  | @cons range value ranges values bounds _ ih =>
      obtain ⟨above, below, small⟩ := bounds
      rw [List.map_cons, List.cons_append, utf8Following, to_nat_of_small value (by omega),
        if_pos ⟨above, below⟩, ih]

theorem utf8_chars_sequence (fuel lead : Nat) (ranges : List (Nat × Nat)) (values : List Nat)
    (rest : Bytes) (char : Char) (leadSmall : lead < 256) (known : utf8Ranges lead = some ranges)
    (inRanges : InRanges ranges values) (scalar : utf8Scalar lead values = char.toNat) :
    utf8Chars (fuel + 1) (UInt8.ofNat lead :: (values.map UInt8.ofNat ++ rest)) =
      char :: utf8Chars fuel rest := by
  rw [utf8Chars, to_nat_of_small lead leadSmall, known]
  simp only [utf8_following_in_ranges ranges values rest inRanges, ← inRanges.length_eq, if_true,
    scalar, Char.ofNat_toNat]
  rw [inRanges.length_eq, ← List.length_map UInt8.ofNat, List.drop_left]

theorem utf8_chars_encode (fuel : Nat) (char : Char) (rest : Bytes) :
    utf8Chars (fuel + 1) (String.utf8EncodeChar char ++ rest) = char :: utf8Chars fuel rest := by
  have valid : char.toNat < 0xD800 ∨ 0xDFFF < char.toNat ∧ char.toNat < 0x110000 := char.valid
  have value : char.val.toNat = char.toNat := rfl
  unfold String.utf8EncodeChar
  simp only [value]
  generalize scalar : char.toNat = v at valid
  split
  · have known : utf8Ranges v = some [] := by
      unfold utf8Ranges
      rw [if_pos (by omega)]
    exact utf8_chars_sequence fuel v [] [] rest char (by omega) known .nil scalar.symm
  split
  · have known : utf8Ranges (v / 64 % 32 + 192) = some [(0x80, 0xBF)] := by
      unfold utf8Ranges
      rw [if_neg (by omega), if_pos (by omega)]
    apply utf8_chars_sequence fuel _ _ [v % 64 + 128] rest char (by omega) known
    · exact .cons (by omega) .nil
    · simp only [utf8Scalar, List.length_singleton, List.foldl_cons, List.foldl_nil]
      omega
  split
  · apply utf8_chars_sequence fuel _
      [(if v / 4096 = 0 then 0xA0 else 0x80, if v / 4096 = 13 then 0x9F else 0xBF), (0x80, 0xBF)]
      [v / 64 % 64 + 128, v % 64 + 128] rest char (by omega)
    · unfold utf8Ranges
      split_ifs <;> first | rfl | omega
    · refine .cons ?_ (.cons (by omega) .nil)
      split_ifs <;> omega
    · simp only [utf8Scalar, List.length_cons, List.length_nil, List.foldl_cons, List.foldl_nil]
      omega
  · apply utf8_chars_sequence fuel _
      [(if v / 262144 = 0 then 0x90 else 0x80, if v / 262144 = 4 then 0x8F else 0xBF),
        (0x80, 0xBF), (0x80, 0xBF)]
      [v / 4096 % 64 + 128, v / 64 % 64 + 128, v % 64 + 128] rest char (by omega)
    · unfold utf8Ranges
      split_ifs <;> first | rfl | omega
    · refine .cons ?_ (.cons (by omega) (.cons (by omega) .nil))
      split_ifs <;> omega
    · simp only [utf8Scalar, List.length_cons, List.length_nil, List.foldl_cons, List.foldl_nil]
      omega

theorem utf8_chars_flat_map (fuel : Nat) (chars : List Char) (enough : chars.length ≤ fuel) :
    utf8Chars fuel (chars.flatMap String.utf8EncodeChar) = chars := by
  induction chars generalizing fuel with
  | nil => cases fuel <;> rfl
  | cons char chars ih =>
      obtain ⟨rest, rfl⟩ : ∃ rest, fuel = rest + 1 := ⟨fuel - 1, by simp at enough; omega⟩
      rw [List.flatMap_cons, utf8_chars_encode, ih rest (by simpa using enough)]

theorem utf8_get_bytes (text : String) :
    utf8GetBytes text = text.toList.flatMap String.utf8EncodeChar := by
  have ofChars (chars : List Char) :
      utf8GetBytes (String.ofList chars) = chars.flatMap String.utf8EncodeChar := by
    simp [utf8GetBytes, List.utf8Encode]
  rw [← ofChars, String.ofList_toList]

theorem length_le_encoded (chars : List Char) :
    chars.length ≤ (chars.flatMap String.utf8EncodeChar).length := by
  induction chars with
  | nil => exact Nat.le_refl 0
  | cons char chars ih =>
      have positive := char.utf8Size_pos
      rw [List.flatMap_cons, List.length_cons, List.length_append, String.length_utf8EncodeChar]
      omega

@[simp] theorem utf8_get_string_bytes (text : String) :
    utf8GetString (utf8GetBytes text) = text := by
  rw [utf8GetString, utf8_get_bytes, utf8_chars_flat_map _ _ (length_le_encoded _),
    String.ofList_toList]

def splitAtMarker (marker : List Char) : List Char → Option (List Char × List Char)
  | [] => if marker = [] then some ([], []) else none
  | char :: rest =>
      if marker.isPrefixOf (char :: rest) then some ([], (char :: rest).drop marker.length)
      else (splitAtMarker marker rest).map fun parts => (char :: parts.1, parts.2)

def markedBlocks (opening closing : List Char) : Nat → List Char → List (List Char)
  | 0, _ => []
  | fuel + 1, text =>
      match splitAtMarker opening text with
      | none => []
      | some (_, inside) =>
          match splitAtMarker closing inside with
          | none => []
          | some (body, rest) =>
              (opening ++ body ++ closing) :: markedBlocks opening closing fuel rest

end CleanRoom.Encodings
