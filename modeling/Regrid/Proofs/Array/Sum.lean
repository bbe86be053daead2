import Mathlib.Algebra.BigOperators.Group.List.Lemmas
import Mathlib.Tactic.Abel
import Regrid.Array.Sum
import Regrid.Proofs.Scalar

/-!
Contract: in exact arithmetic the order in which the items of a vector are added does not matter.

Owns:
- one lemma for each way of adding items, which says that it gives their sum.

Does not own: rounding, and what is added.
-/

namespace Regrid

/-- Items that are added to a start one by one. -/
theorem foldl_add_rat (items : List Rat) (start : Rat) :
    items.foldl (· + ·) start = start + items.sum := by
  induction items generalizing start with
  | nil => exact (add_zero start).symm
  | cons item rest inductionHypothesis =>
      rw [List.foldl_cons, inductionHypothesis, List.sum_cons, add_assoc]

theorem sumInOrder_rat (items : List Rat) : sumInOrder items = items.sum := by
  have start : -(Scalar.zero : Rat) = 0 := by
    rw [Scalar.zero_rat]
    exact neg_zero
  unfold sumInOrder
  rw [start]
  exact (foldl_add_rat items 0).trans (zero_add items.sum)

/-- Blocks that are moved onto the lanes leave the sum of lanes and items as it was. -/
theorem sumLanes_rat (blocks : Nat) (lanes items : List Rat) (eight : lanes.length = 8)
    (enough : 8 * blocks ≤ items.length) :
    (sumLanes blocks lanes items).1.sum + (sumLanes blocks lanes items).2.sum =
      lanes.sum + items.sum := by
  induction blocks generalizing lanes items with
  | zero => rfl
  | succ blocks inductionHypothesis =>
      have block : lanes.length = (items.take 8).length := by
        rw [List.length_take]
        omega
      have onto : (lanes.zipWith (· + ·) (items.take 8)).sum = lanes.sum + (items.take 8).sum :=
        (List.sum_add_sum_eq_sum_zipWith_of_length_eq lanes (items.take 8) block).symm
      have later := inductionHypothesis (lanes.zipWith (· + ·) (items.take 8)) (items.drop 8)
        (by rw [List.length_zipWith, ← block, Nat.min_self, eight])
        (by rw [List.length_drop]; omega)
      rw [onto, add_assoc, List.sum_take_add_sum_drop] at later
      exact later

theorem joinLanes_rat (lanes : List Rat) : joinLanes lanes = lanes.sum := by
  unfold joinLanes
  split
  next a b c d e f g h =>
    simp only [List.sum_cons, List.sum_nil]
    show ((a + b) + (c + d)) + ((e + f) + (g + h)) = _
    abel
  next => exact sumInOrder_rat lanes

theorem sumBlocked_rat {items : List Rat} (enough : 8 ≤ items.length) :
    sumBlocked items = items.sum := by
  have lanes := sumLanes_rat (items.length / 8 - 1) (items.take 8) (items.drop 8)
    (by rw [List.length_take]; omega) (by rw [List.length_drop]; omega)
  rw [List.sum_take_add_sum_drop] at lanes
  unfold sumBlocked
  exact (foldl_add_rat ..).trans (by rw [joinLanes_rat]; exact lanes)

/-- Few items, blocks of items and halves all add up to the same. -/
theorem sumPairwise_rat (items : List Rat) : sumPairwise items = items.sum := by
  fun_induction sumPairwise items with
  | case1 items few => exact sumInOrder_rat items
  | case2 items some few => exact sumBlocked_rat (Nat.le_of_not_lt some)
  | case3 items some many half front back =>
      rw [front, back]
      exact List.sum_take_add_sum_drop items half

/-- The sum of a vector of rationals, however many items it has. -/
theorem total_rat (items : List Rat) : total items = items.sum := by
  unfold total
  rw [sumPairwise_rat, Scalar.zero_rat]
  exact zero_add items.sum

end Regrid
