import CleanRoom.Library.ByteFile
import Mathlib.Data.Nat.Digits.Defs

/-!
# Big-endian words

`binary.BigEndian.PutUint64` and `binary.BigEndian.Uint64`, with the 64-bit
integers at their ends. A number that fits in 63 bits comes back as it was.
-/

namespace CleanRoom.BigEndian

open ByteFile

/-- The last `width` bytes of a number, most significant first. -/
def encode : Nat → Nat → Bytes
  | 0, _ => []
  | width + 1, value => encode width (value / 256) ++ [UInt8.ofNat value]

def decode (bytes : Bytes) : Nat :=
  bytes.foldl (fun value byte => 256 * value + byte.toNat) 0

@[simp] theorem length_encode (width value : Nat) : (encode width value).length = width := by
  induction width generalizing value with
  | zero => rfl
  | succ width ih => simp [encode, ih]

theorem decode_encode (width value : Nat) :
    decode (encode width value) = value % 256 ^ width := by
  induction width generalizing value with
  | zero => simp [encode, decode, Nat.mod_one]
  | succ width ih =>
      have step : decode (encode width (value / 256) ++ [UInt8.ofNat value]) =
          256 * decode (encode width (value / 256)) + value % 256 := by
        simp [decode, List.foldl_append]
      rw [encode, step, ih, pow_succ, Nat.mul_comm (256 ^ width) 256, Nat.mod_mul]
      omega

/-- The value of an `int64` whose exact result is the given one. -/
def int64 (value : Int) : Int := value.bmod (2 ^ 64)

/-- The value of a `uint64` whose exact result is the given one. -/
def uint64 (value : Int) : Nat := (value % 2 ^ 64).toNat

theorem int64_of_fits (value : Int) (low : -2 ^ 63 ≤ value) (high : value < 2 ^ 63) :
    int64 value = value := by
  apply Int.bmod_eq_of_le
  · norm_num at low ⊢
    exact low
  · norm_num at high ⊢
    exact high

theorem uint64_of_fits (value : Nat) (fits : value < 2 ^ 64) : uint64 value = value := by
  simp only [uint64]
  omega

def putInt64 (value : Int) : Bytes := encode 8 (uint64 value)

def getInt64 (bytes : Bytes) : Int := int64 (decode bytes)

@[simp] theorem length_put_int64 (value : Int) : (putInt64 value).length = 8 :=
  length_encode 8 _

theorem get_put_int64 (value : Nat) (fits : value < 2 ^ 63) :
    getInt64 (putInt64 value) = value := by
  have small : value % 256 ^ 8 = value := Nat.mod_eq_of_lt (by
    norm_num
    omega)
  rw [getInt64, putInt64, decode_encode, uint64_of_fits value (by omega), small]
  exact int64_of_fits value (by omega) (by exact_mod_cast fits)

end CleanRoom.BigEndian
