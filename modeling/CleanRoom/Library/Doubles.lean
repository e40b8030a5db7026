import Mathlib.Algebra.Order.Floor.Ring
import Mathlib.Data.Int.Log
import Mathlib.Data.Rat.Floor
import Mathlib.Tactic.FieldSimp
import Mathlib.Tactic.Linarith
import Mathlib.Tactic.Positivity
import Mathlib.Tactic.Ring

/-!
# Doubles

A rational is rounded to the nearest number of 53 binary digits, at a tie to the even one.
The exponent has no bounds, so nothing overflows. `Close` bounds the relative error of what
is computed by a number of units, half of the last place each.
-/

namespace CleanRoom.Doubles

def roundHalfEven (value : Rat) : Int :=
  let below := value.floor
  if value - below < 1 / 2 then below
  else if 1 / 2 < value - below then below + 1
  else if below % 2 = 0 then below
  else below + 1

/-- The distance of two neighbours among the doubles of the size of a value. -/
def spacing (value : Rat) : Rat := 2 ^ (Int.log 2 |value| - 52)

def toDouble (value : Rat) : Rat :=
  if value = 0 then 0 else roundHalfEven (value / spacing value) * spacing value

variable {value exact : Rat}

theorem round_near (value : Rat) : |(roundHalfEven value : Rat) - value| ≤ 1 / 2 := by
  have lower : (value.floor : Rat) ≤ value := Int.floor_le value
  have upper : value < value.floor + 1 := Int.lt_floor_add_one value
  rw [abs_le]
  unfold roundHalfEven
  dsimp only
  split_ifs <;> push_cast <;> constructor <;> linarith

theorem round_of_near (whole : Int) (near : |value - whole| < 1 / 2) :
    roundHalfEven value = whole := by
  have rounded := round_near value
  rw [abs_lt] at near
  rw [abs_le] at rounded
  have below : (roundHalfEven value : Rat) < (whole + 1 : Int) := by
    push_cast
    linarith
  have above : (whole : Rat) < (roundHalfEven value + 1 : Int) := by
    push_cast
    linarith
  have below : roundHalfEven value < whole + 1 := by exact_mod_cast below
  have above : whole < roundHalfEven value + 1 := by exact_mod_cast above
  omega

/-- A fraction that is no tie is nearer to its rounding by half of the fraction's unit. -/
theorem round_near_fraction (numerator : Int) (parts : Nat) (positive : 0 < parts)
    (noTie : |(roundHalfEven (numerator / parts) : Rat) - numerator / parts| ≠ 1 / 2) :
    |(roundHalfEven (numerator / parts) : Rat) - numerator / parts| ≤ 1 / 2 - 1 / (2 * parts) := by
  have unit : (0 : Rat) < parts := by exact_mod_cast positive
  have near := lt_of_le_of_ne (round_near (numerator / parts)) noTie
  generalize roundHalfEven (numerator / parts) = whole at near ⊢
  have scaled : |(whole : Rat) - numerator / parts| =
      ((|whole * parts - numerator| : Int) : Rat) / parts := by
    rw [Int.cast_abs, ← abs_of_pos unit, ← abs_div, abs_of_pos unit]
    congr 1
    push_cast
    field_simp
  rw [scaled, div_lt_iff₀ unit] at near
  have strict : 2 * |whole * parts - numerator| < parts := by
    have doubled : ((2 * |whole * parts - numerator| : Int) : Rat) < ((parts : Int) : Rat) := by
      push_cast at near ⊢
      linarith
    exact_mod_cast doubled
  have margin : ((2 * |whole * parts - numerator| + 1 : Int) : Rat) ≤ parts := by
    exact_mod_cast strict
  rw [scaled, div_le_iff₀ unit]
  push_cast at margin ⊢
  field_simp
  linarith

theorem to_double_near (value : Rat) : |toDouble value - value| ≤ |value| / 2 ^ 53 := by
  by_cases zero : value = 0
  · simp [toDouble, zero]
  · have positive : 0 < spacing value := zpow_pos (by norm_num) _
    have size : spacing value * 2 ^ 52 ≤ |value| := by
      rw [spacing, ← zpow_natCast, ← zpow_add₀ (by norm_num)]
      have below := Int.zpow_log_le_self (b := 2) (by norm_num) (abs_pos.mpr zero)
      simpa using below
    have factored : toDouble value - value =
        (roundHalfEven (value / spacing value) - value / spacing value) * spacing value := by
      rw [toDouble, if_neg zero]
      field_simp
    rw [factored, abs_mul, abs_of_pos positive, le_div_iff₀ (by norm_num)]
    have rounded := mul_le_mul_of_nonneg_right (round_near (value / spacing value)) positive.le
    linarith

@[simp] theorem to_double_zero : toDouble 0 = 0 := if_pos rfl

/-- The value differs from the exact one by at most the given number of units. -/
def Close (units : Nat) (value exact : Rat) : Prop :=
  |value - exact| ≤ units * exact / 2 ^ 53

theorem close_to_double (positive : 0 ≤ exact) : Close 1 (toDouble exact) exact := by
  have near := to_double_near exact
  rw [abs_of_nonneg positive] at near
  simpa [Close] using near

theorem Close.add {units : Nat} {other exactOther : Rat} (first : Close units value exact)
    (second : Close units other exactOther) : Close units (value + other) (exact + exactOther) := by
  unfold Close at *
  have sum := abs_add_le (value - exact) (other - exactOther)
  rw [show value + other - (exact + exactOther) = value - exact + (other - exactOther) by ring]
  linarith

theorem Close.round {units : Nat} (few : units ≤ 2 ^ 53) (positive : 0 ≤ exact)
    (close : Close units value exact) : Close (units + 2) (toDouble value) exact := by
  unfold Close at *
  have rounded := to_double_near value
  have bound : (units : Rat) ≤ 2 ^ 53 := by exact_mod_cast few
  have error : (units : Rat) * exact / 2 ^ 53 ≤ exact := by
    rw [div_le_iff₀ (by norm_num), mul_comm]
    exact mul_le_mul_of_nonneg_left bound positive
  have size : |value| ≤ 2 * exact := by
    have triangle := abs_add_le (value - exact) exact
    rw [sub_add_cancel, abs_of_nonneg positive] at triangle
    linarith
  have sum := abs_add_le (toDouble value - value) (value - exact)
  rw [sub_add_sub_cancel] at sum
  push_cast
  linarith

theorem Close.divide {units count : Nat} (some : 0 < count) (positive : 0 ≤ exact)
    (close : Close units value exact) :
    Close (2 * (units + 1)) (value / toDouble count) (exact / count) := by
  have counted : (0 : Rat) < count := by exact_mod_cast some
  have divisor : |toDouble count - count| ≤ count / 2 ^ 53 := by
    simpa [Close] using close_to_double counted.le
  have half : (count : Rat) ≤ 2 * toDouble count := by
    have below := (abs_le.mp divisor).1
    linarith
  have divided : (0 : Rat) < toDouble count := by linarith
  have split : value / toDouble count - exact / count =
      (value - exact) / toDouble count -
        exact / count * (toDouble count - count) / toDouble count := by
    field_simp
    ring
  have first : |(value - exact) / toDouble count| ≤ 2 * (units * (exact / count) / 2 ^ 53) := by
    rw [abs_div, abs_of_pos divided, div_le_iff₀ divided]
    refine le_trans close ?_
    have scaled : (units : Rat) * exact / 2 ^ 53 = units * (exact / count) / 2 ^ 53 * count := by
      field_simp
    rw [scaled]
    have weight : 0 ≤ (units : Rat) * (exact / count) / 2 ^ 53 := by positivity
    nlinarith
  have second : |exact / count * (toDouble count - count) / toDouble count| ≤
      2 * (exact / count / 2 ^ 53) := by
    have weight : 0 ≤ exact / count := by positivity
    rw [abs_div, abs_mul, abs_of_pos divided, abs_of_nonneg weight, div_le_iff₀ divided]
    refine le_trans (mul_le_mul_of_nonneg_left divisor weight) ?_
    have small : 0 ≤ exact / count / 2 ^ 53 := by positivity
    calc exact / count * (count / 2 ^ 53) = exact / count / 2 ^ 53 * count := by ring
      _ ≤ exact / count / 2 ^ 53 * (2 * toDouble count) := mul_le_mul_of_nonneg_left half small
      _ = 2 * (exact / count / 2 ^ 53) * toDouble count := by ring
  unfold Close
  rw [split]
  refine le_trans (abs_sub _ _) ?_
  push_cast
  linarith

end CleanRoom.Doubles
