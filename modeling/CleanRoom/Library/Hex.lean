import CleanRoom.Library.ByteFile

/-!
# Hexadecimal text

`BitConverter.ToString` without its dashes: two upper-case digits for each byte. The
text determines the bytes, and zero bytes are zero digits. The lower-case text is
the one that `toString(16)` with padding writes.
-/

namespace CleanRoom.Hex

open ByteFile

def upperHexDigit (value : Nat) : Char := "0123456789ABCDEF".toList.getD value '0'

def hexDigits (byte : UInt8) : List Char :=
  [upperHexDigit (byte.toNat / 16), upperHexDigit (byte.toNat % 16)]

def hexString (bytes : Bytes) : String := String.ofList (bytes.flatMap hexDigits)

theorem upper_hex_digit_injective (left right : Nat) (leftSmall : left < 16)
    (rightSmall : right < 16) (same : upperHexDigit left = upperHexDigit right) :
    left = right := by
  have digits : ∀ left < 16, ∀ right < 16, upperHexDigit left = upperHexDigit right →
      left = right := by decide
  exact digits left leftSmall right rightSmall same

theorem hex_digits_of_byte_injective (left right : UInt8)
    (same : hexDigits left = hexDigits right) : left = right := by
  obtain ⟨high, low⟩ : upperHexDigit (left.toNat / 16) = upperHexDigit (right.toNat / 16) ∧
      upperHexDigit (left.toNat % 16) = upperHexDigit (right.toNat % 16) := by
    simpa [hexDigits] using same
  have leftBound := left.toNat_lt
  have rightBound := right.toNat_lt
  have highs := upper_hex_digit_injective _ _ (by omega) (by omega) high
  have lows := upper_hex_digit_injective _ _ (by omega) (by omega) low
  apply UInt8.toNat_inj.mp
  omega

theorem hex_text_injective (left right : Bytes)
    (same : left.flatMap hexDigits = right.flatMap hexDigits) : left = right := by
  induction left generalizing right with
  | nil =>
      cases right with
      | nil => rfl
      | cons byte rest => simp [hexDigits] at same
  | cons byte rest ih =>
      cases right with
      | nil => simp [hexDigits] at same
      | cons other others =>
          rw [List.flatMap_cons, List.flatMap_cons] at same
          obtain ⟨heads, tails⟩ := List.append_inj same rfl
          rw [hex_digits_of_byte_injective byte other heads, ih others tails]

theorem hex_string_injective {left right : Bytes} (same : hexString left = hexString right) :
    left = right :=
  hex_text_injective left right (String.ofList_injective same)

theorem hex_string_append (left right : Bytes) :
    hexString (left ++ right) = hexString left ++ hexString right := by
  simp [hexString]

theorem hex_string_zeros (count : Nat) :
    hexString (List.replicate count 0) = String.ofList (List.replicate (2 * count) '0') := by
  apply congrArg String.ofList
  induction count with
  | zero => rfl
  | succ count ih =>
      rw [List.replicate_succ, List.flatMap_cons, ih, Nat.mul_succ]
      rfl

theorem eq_append_zeros {bytes head : Bytes} {count : Nat}
    (same : hexString bytes = hexString head ++ String.ofList (List.replicate (2 * count) '0')) :
    bytes = head ++ List.replicate count 0 := by
  apply hex_string_injective
  rw [hex_string_append, hex_string_zeros]
  exact same

def lowerHexDigit (value : Nat) : Char := "0123456789abcdef".toList.getD value '0'

def lowerHexDigits (byte : UInt8) : List Char :=
  [lowerHexDigit (byte.toNat / 16), lowerHexDigit (byte.toNat % 16)]

def lowerHexString (bytes : Bytes) : String := String.ofList (bytes.flatMap lowerHexDigits)

theorem to_upper_lower_hex_digit (value : Nat) (small : value < 16) :
    (lowerHexDigit value).toUpper = upperHexDigit value := by
  have digits : ∀ value < 16, (lowerHexDigit value).toUpper = upperHexDigit value := by decide
  exact digits value small

theorem to_upper_lower_hex (bytes : Bytes) :
    (bytes.flatMap lowerHexDigits).map Char.toUpper = bytes.flatMap hexDigits := by
  induction bytes with
  | nil => rfl
  | cons byte rest ih =>
      have bound := byte.toNat_lt
      rw [List.flatMap_cons, List.flatMap_cons, List.map_append, ih]
      simp only [lowerHexDigits, hexDigits, List.map_cons, List.map_nil,
        to_upper_lower_hex_digit _ (show byte.toNat / 16 < 16 by omega),
        to_upper_lower_hex_digit _ (show byte.toNat % 16 < 16 by omega)]

theorem lower_hex_digits_ascii (byte : UInt8) :
    ∀ char ∈ lowerHexDigits byte, char.toNat < 128 := by
  have digits : ∀ value < 16, (lowerHexDigit value).toNat < 128 := by decide
  have bound := byte.toNat_lt
  intro char member
  rcases List.mem_cons.mp member with rfl | last
  · exact digits _ (by omega)
  · rw [List.mem_singleton.mp last]
    exact digits _ (by omega)

theorem lower_hex_text_ascii (bytes : Bytes) :
    ∀ char ∈ bytes.flatMap lowerHexDigits, char.toNat < 128 := by
  intro char member
  obtain ⟨byte, _, digit⟩ := List.mem_flatMap.mp member
  exact lower_hex_digits_ascii byte char digit

theorem hex_digits_ascii (byte : UInt8) : ∀ char ∈ hexDigits byte, char.toNat < 128 := by
  have digits : ∀ value < 16, (upperHexDigit value).toNat < 128 := by decide
  have bound := byte.toNat_lt
  intro char member
  rcases List.mem_cons.mp member with rfl | last
  · exact digits _ (by omega)
  · rw [List.mem_singleton.mp last]
    exact digits _ (by omega)

theorem hex_text_ascii (bytes : Bytes) :
    ∀ char ∈ bytes.flatMap hexDigits, char.toNat < 128 := by
  intro char member
  obtain ⟨byte, _, digit⟩ := List.mem_flatMap.mp member
  exact hex_digits_ascii byte char digit

theorem hex_text_length (bytes : Bytes) :
    (bytes.flatMap hexDigits).length = 2 * bytes.length := by
  induction bytes with
  | nil => rfl
  | cons byte rest ih =>
      rw [List.flatMap_cons, List.length_append, ih, List.length_cons]
      simp only [hexDigits, List.length_cons, List.length_nil]
      omega

theorem lower_hex_text_length (bytes : Bytes) :
    (bytes.flatMap lowerHexDigits).length = 2 * bytes.length := by
  rw [← hex_text_length, ← to_upper_lower_hex, List.length_map]

theorem lower_hex_string_append (left right : Bytes) :
    lowerHexString (left ++ right) = lowerHexString left ++ lowerHexString right := by
  simp [lowerHexString]

theorem lower_hex_string_zeros (count : Nat) :
    lowerHexString (List.replicate count 0) =
      String.ofList (List.replicate (2 * count) '0') := by
  apply congrArg String.ofList
  induction count with
  | zero => rfl
  | succ count ih =>
      rw [List.replicate_succ, List.flatMap_cons, ih, Nat.mul_succ]
      rfl

theorem lower_hex_string_injective {left right : Bytes}
    (same : lowerHexString left = lowerHexString right) : left = right := by
  have texts := congrArg (List.map Char.toUpper) (String.ofList_injective same)
  rw [to_upper_lower_hex, to_upper_lower_hex] at texts
  exact hex_text_injective left right texts

end CleanRoom.Hex
