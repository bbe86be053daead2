import Regrid.Scalar

/-!
Contract: the order in which the items of a vector are added.

Owns:
- blocked pairwise summation: few items one by one, up to 128 items in eight
  lanes, more items by halves;
- the mean that is taken of it.

Does not own: sums that are accumulated entry by entry elsewhere.
-/

namespace Regrid

variable {α : Type} [Scalar α]

/-- Adds items one by one from the left, from negative zero. -/
def sumInOrder (items : List α) : α := items.foldl (· + ·) (-Scalar.zero)

/-- Adds whole blocks of eight items onto eight lanes; answers the lanes and the
items that fill no block. -/
def sumLanes : Nat → List α → List α → List α × List α
  | 0, lanes, items => (lanes, items)
  | blocks + 1, lanes, items =>
    sumLanes blocks (lanes.zipWith (· + ·) (items.take 8)) (items.drop 8)

/-- Adds eight lanes as a balanced tree. -/
def joinLanes : List α → α
  | [a, b, c, d, e, f, g, h] => ((a + b) + (c + d)) + ((e + f) + (g + h))
  | lanes => sumInOrder lanes

/-- Adds at least eight items in eight lanes, and the rest one by one. -/
def sumBlocked (items : List α) : α :=
  let (lanes, rest) := sumLanes (items.length / 8 - 1) (items.take 8) (items.drop 8)
  rest.foldl (· + ·) (joinLanes lanes)

/-- Pairwise summation: more than 128 items are cut near the middle, at a
multiple of eight, and the two parts are added separately. -/
def sumPairwise (items : List α) : α :=
  if items.length < 8 then sumInOrder items
  else if items.length ≤ 128 then sumBlocked items
  else
    let half := items.length / 2 - items.length / 2 % 8
    sumPairwise (items.take half) + sumPairwise (items.drop half)
termination_by items.length
decreasing_by
  all_goals simp only [List.length_take, List.length_drop]; omega

/-- The sum of a vector. -/
def total (items : List α) : α := Scalar.zero + sumPairwise items

/-- The mean of a vector. -/
def mean (items : List α) : α := total items / Scalar.ofInt items.length

end Regrid
