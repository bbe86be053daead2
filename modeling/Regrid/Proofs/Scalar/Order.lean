import Mathlib.Algebra.Order.Ring.Rat
import Mathlib.Order.Defs.LinearOrder
import Regrid.Scalar.Rational

/-!
Contract: what the comparisons of scalars tell about their order and their differences.

Owns:
- the place of a scalar on a line, which decides comparisons of scalars that equal themselves;
- that the difference of scalars that ascend is told from zero;
- both of them for rationals.

Does not own: doubles.
-/

namespace Regrid.Scalar

/-- Scalars that equal themselves are compared by their places on a line. Scalars at one place
equal each other, and may still be different, as both zeros are. -/
class Ordered (α : Type) [Scalar α] where
  Rank : Type
  order : LinearOrder Rank
  rank : α → Rank
  below_iff : ∀ {x y : α}, equal x x = true → equal y y = true →
    (below x y = true ↔ rank x < rank y)
  equal_iff : ∀ {x y : α}, equal x x = true → equal y y = true →
    (equal x y = true ↔ rank x = rank y)

instance {α : Type} [Scalar α] [Ordered α] : LinearOrder (Ordered.Rank α) := Ordered.order

/-- A difference is positive where the subtrahend is below. -/
class Separated (α : Type) [Scalar α] : Prop where
  atMost_sub : ∀ {x y : α}, below x y = true → atMost (y - x) zero = false

theorem below_rat (x y : Rat) : below x y = true ↔ x < y := decide_eq_true_iff

instance : Ordered Rat where
  Rank := Rat
  order := inferInstance
  rank := id
  below_iff := fun _ _ => below_rat ..
  equal_iff := fun _ _ => decide_eq_true_iff

instance : Separated Rat where
  atMost_sub := by
    intro x y above
    have positive : 0 < y - x := sub_pos.mpr ((below_rat ..).mp above)
    show decide (y - x ≤ ((0 : Int) : Rat)) = false
    rw [Int.cast_zero]
    exact decide_eq_false (not_le.mpr positive)

end Regrid.Scalar
