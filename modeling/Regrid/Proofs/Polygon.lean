import Mathlib.Tactic.FieldSimp
import Mathlib.Tactic.Ring
import Regrid.Polygon
import Regrid.Proofs.Scalar

/-!
Contract: the surveyor's formula and the centroid formula are exact on rectangles.

Owns:
- the sum of four terms in the order in which they are added;
- area and centre of gravity of axis-parallel rectangles with rational corners.

Does not own: other polygons, and rounding.
-/

namespace Regrid

theorem total_four {α : Type} [Scalar α] (first second third fourth : α) :
    total [first, second, third, fourth] =
      Scalar.zero + ((((-Scalar.zero + first) + second) + third) + fourth) := by
  have few : [first, second, third, fourth].length < 8 := by
    show 4 < 8
    decide
  rw [total, sumPairwise, if_pos few]
  rfl

theorem total_four_rat (first second third fourth : Rat) :
    total [first, second, third, fourth] = first + second + third + fourth := by
  rw [total_four]
  show ((0 : Int) : Rat) + ((((-((0 : Int) : Rat) + first) + second) + third) + fourth) = _
  push_cast
  ring

namespace Polygon

/-- The corners between two boundaries on each axis, counter-clockwise from the lower left. -/
def box {α : Type} (left right bottom top : α) : Polygon α :=
  [(left, bottom), (right, bottom), (right, top), (left, top)]

variable (left right bottom top : Rat)

theorem edgeTerms_box : (box left right bottom top).edgeTerms =
    [left * bottom - right * bottom, right * top - right * bottom,
      right * top - left * top, left * bottom - left * top] := rfl

theorem area_box : (box left right bottom top).area = (right - left) * (top - bottom) := by
  have enough : ¬ (box left right bottom top).length < 3 := by
    show ¬ 4 < 3
    decide
  rw [area, if_neg enough, edgeTerms_box, total_four_rat]
  show ((1 : Int) : Rat) / ((2 : Int) : Rat) * _ = _
  push_cast
  ring

theorem moment_box_fst : (box left right bottom top).moment (·.1) =
    3 * (left + right) * ((right - left) * (top - bottom)) := by
  have terms : ((box left right bottom top).zipWith (fun start finish => start.1 + finish.1)
      (box left right bottom top).turned).zipWith (· * ·) (box left right bottom top).edgeTerms =
      [(left + right) * (left * bottom - right * bottom),
        (right + right) * (right * top - right * bottom),
        (right + left) * (right * top - left * top),
        (left + left) * (left * bottom - left * top)] := rfl
  rw [moment, terms, total_four_rat]
  ring

theorem moment_box_snd : (box left right bottom top).moment (·.2) =
    3 * (bottom + top) * ((right - left) * (top - bottom)) := by
  have terms : ((box left right bottom top).zipWith (fun start finish => start.2 + finish.2)
      (box left right bottom top).turned).zipWith (· * ·) (box left right bottom top).edgeTerms =
      [(bottom + bottom) * (left * bottom - right * bottom),
        (bottom + top) * (right * top - right * bottom),
        (top + top) * (right * top - left * top),
        (top + bottom) * (left * bottom - left * top)] := rfl
  rw [moment, terms, total_four_rat]
  ring

variable {left right bottom top}

/-- The centre of gravity of a rectangle is its midpoint. -/
theorem centroid_box (wide : left < right) (high : bottom < top) :
    (box left right bottom top).centroid = .ok ((left + right) / 2, (bottom + top) / 2) := by
  have width : right - left ≠ 0 := sub_ne_zero.mpr wide.ne'
  have height : top - bottom ≠ 0 := sub_ne_zero.mpr high.ne'
  have encloses : ¬ Scalar.isZero (box left right bottom top).area = true := by
    rw [Scalar.isZero_rat, area_box]
    exact mul_ne_zero width height
  unfold centroid
  rw [if_neg encloses, moment_box_fst, moment_box_snd, area_box]
  refine congrArg Except.ok (Prod.ext ?_ ?_)
  · show 3 * (left + right) * ((right - left) * (top - bottom)) *
      (((1 : Int) : Rat) / (((6 : Int) : Rat) * ((right - left) * (top - bottom)))) = _
    push_cast
    field_simp
    ring
  · show 3 * (bottom + top) * ((right - left) * (top - bottom)) *
      (((1 : Int) : Rat) / (((6 : Int) : Rat) * ((right - left) * (top - bottom)))) = _
    push_cast
    field_simp
    ring

end Polygon

end Regrid
