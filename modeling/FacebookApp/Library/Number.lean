import FacebookApp.Library.Program
import Mathlib.Algebra.Order.Field.Rat
import Mathlib.Data.Rat.Floor
import Mathlib.Tactic.FieldSimp
import Mathlib.Tactic.Linarith

/-!
# Dart numbers

Division and rounding of doubles, with the finite doubles read as exact
rationals.
-/

set_option autoImplicit false

namespace Dart

inductive Double where
  | finite (value : ℚ)
  | infinity (negative : Bool)
  | nan
  deriving DecidableEq

namespace Double

def divide (numerator denominator : Int) : Double :=
  if denominator = 0 then
    if numerator = 0 then .nan else .infinity (decide (numerator < 0))
  else .finite (numerator / denominator)

def isInfinite : Double → Bool
  | .infinity _ => true
  | .finite _ => false
  | .nan => false

/-- The nearest integer; a value halfway between two goes away from zero. -/
def roundHalfAway (value : ℚ) : Int :=
  if 0 ≤ value then (value + 1 / 2).floor else -(-value + 1 / 2).floor

def round {External Store : Type} : Double → Program External Store Int
  | .finite value => pure (roundHalfAway value)
  | .infinity _ => throw .unsupportedError
  | .nan => throw .unsupportedError

/-! ## Rounding -/

theorem roundHalfAway_of_nonneg {value : ℚ} (nonneg : 0 ≤ value) :
    roundHalfAway value = ⌊value + 1 / 2⌋ := by
  simp only [roundHalfAway, if_pos nonneg]
  rfl

theorem roundHalfAway_of_neg {value : ℚ} (neg : value < 0) :
    roundHalfAway value = -⌊-value + 1 / 2⌋ := by
  simp only [roundHalfAway, if_neg (not_le.mpr neg)]
  rfl

theorem abs_roundHalfAway_sub_le (value : ℚ) :
    |(roundHalfAway value : ℚ) - value| ≤ 1 / 2 := by
  rcases le_or_gt 0 value with nonneg | neg
  · rw [roundHalfAway_of_nonneg nonneg, abs_le]
    have below := Int.floor_le (value + 1 / 2)
    have above := Int.lt_floor_add_one (value + 1 / 2)
    constructor <;> linarith
  · rw [roundHalfAway_of_neg neg, abs_le]
    have below := Int.floor_le (-value + 1 / 2)
    have above := Int.lt_floor_add_one (-value + 1 / 2)
    push_cast
    constructor <;> linarith

@[simp] theorem roundHalfAway_intCast (value : ℤ) : roundHalfAway value = value := by
  have near := abs_le.mp (abs_roundHalfAway_sub_le value)
  have below : (roundHalfAway value : ℚ) < value + 1 := by linarith
  have above : (value : ℚ) < roundHalfAway value + 1 := by linarith
  norm_cast at below above
  omega

theorem roundHalfAway_mono {left right : ℚ} (le : left ≤ right) :
    roundHalfAway left ≤ roundHalfAway right := by
  rcases le_or_gt 0 left with nonneg | neg
  · rw [roundHalfAway_of_nonneg nonneg, roundHalfAway_of_nonneg (nonneg.trans le)]
    exact Int.floor_le_floor (by linarith)
  · rcases le_or_gt 0 right with nonneg' | neg'
    · rw [roundHalfAway_of_neg neg, roundHalfAway_of_nonneg nonneg']
      have left' : 0 ≤ ⌊-left + 1 / 2⌋ := Int.floor_nonneg.mpr (by linarith)
      have right' : 0 ≤ ⌊right + 1 / 2⌋ := Int.floor_nonneg.mpr (by linarith)
      omega
    · rw [roundHalfAway_of_neg neg, roundHalfAway_of_neg neg']
      exact neg_le_neg (Int.floor_le_floor (by linarith))

theorem le_roundHalfAway {bound : ℤ} {value : ℚ} (le : bound ≤ value) :
    bound ≤ roundHalfAway value := by
  simpa using roundHalfAway_mono le

/-- A rounded quotient taken times the divisor misses the dividend by half the
divisor at most. -/
theorem abs_mul_roundHalfAway_div_sub_le (dividend : ℤ) {divisor : ℤ}
    (positive : 0 < divisor) :
    2 * |divisor * roundHalfAway (dividend / divisor) - dividend| ≤ divisor := by
  have positive' : (0 : ℚ) < divisor := by exact_mod_cast positive
  have scaled : (divisor * roundHalfAway (dividend / divisor) - dividend : ℚ) =
      divisor * (roundHalfAway (dividend / divisor) - dividend / divisor) := by
    field_simp
  have near := abs_roundHalfAway_sub_le (dividend / divisor)
  have missed : 2 * |(divisor * roundHalfAway (dividend / divisor) - dividend : ℚ)| ≤
      divisor := by
    have product := mul_le_mul_of_nonneg_left near positive'.le
    rw [scaled, abs_mul, abs_of_pos positive']
    linarith
  exact_mod_cast missed

end Double

end Dart
