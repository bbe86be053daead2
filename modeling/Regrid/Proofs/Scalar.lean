import Mathlib.Algebra.Order.Group.Abs
import Mathlib.Algebra.Order.Ring.Rat
import Regrid.Scalar.Rational

/-!
Contract: rationals as scalars are the ordered field of rationals.

Owns:
- zero, one, the test for zero and the absolute value of the instance, and absolute values of
  sums.

Does not own: other scalars.
-/

namespace Regrid.Scalar

theorem zero_rat : (zero : Rat) = 0 := Int.cast_zero

theorem one_rat : (one : Rat) = 1 := Int.cast_one

theorem isZero_rat (x : Rat) : isZero x = true ↔ x = 0 := decide_eq_true_iff

theorem abs_rat (x : Rat) : Scalar.abs x = |x| := by
  have byCases : Scalar.abs x = if x < 0 then -x else x := rfl
  rw [byCases]
  split
  next negative => exact (abs_of_neg negative).symm
  next natural => exact (abs_of_nonneg (not_lt.mp natural)).symm

theorem abs_rat_nonneg (x : Rat) : 0 ≤ Scalar.abs x := by
  rw [abs_rat]
  exact abs_nonneg x

theorem abs_rat_neg (x : Rat) : Scalar.abs (-x) = Scalar.abs x := by
  rw [abs_rat, abs_rat, abs_neg]

/-- The sizes of two numbers of one sign add up. -/
theorem abs_rat_add {x y : Rat} (oneSign : 0 ≤ x * y) :
    Scalar.abs (x + y) = Scalar.abs x + Scalar.abs y := by
  rw [abs_rat, abs_rat, abs_rat]
  exact (abs_add_eq_add_abs_iff x y).mpr (mul_nonneg_iff.mp oneSign)

end Regrid.Scalar
