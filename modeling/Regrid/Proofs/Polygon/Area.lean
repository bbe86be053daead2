import Mathlib.Algebra.BigOperators.Ring.List
import Mathlib.Data.List.Rotate
import Mathlib.Data.List.Zip
import Mathlib.Tactic.LinearCombination
import Mathlib.Tactic.Ring
import Regrid.Polygon
import Regrid.Proofs.Array.Sum

/-!
Contract: laws of the signed area, for polygons of any number of corners, in exact arithmetic.

Owns:
- the edges of a polygon and what becomes of them when its corners are turned, reversed or moved,
  and when it is cut along a chord;
- the area as a sum over the edges, which also holds of fewer than three corners;
- the laws that the area has because its edges have them.

Does not own: the centre of gravity, and rounding.

The shortcut for fewer than three corners agrees with the surveyor's formula, since the edges
between two corners enclose nothing together. So no law has to leave short polygons out.
-/

namespace Regrid.Polygon

/-! ### Edges -/

section Edges

variable {α β γ : Type}

/-- The edges of a polygon, each with its start and its finish; the closing edge is the last. -/
def edges (polygon : Polygon α) : List ((α × α) × (α × α)) := polygon.zip polygon.turned

theorem turned_eq_rotate (polygon : Polygon α) : polygon.turned = polygon.rotate 1 := by
  cases polygon with
  | nil => rfl
  | cons first rest => rw [List.rotate_cons_succ, List.rotate_zero, turned]

theorem edges_eq_zip_rotate (polygon : Polygon α) :
    polygon.edges = polygon.zip (polygon.rotate 1) := by
  rw [edges, turned_eq_rotate]

theorem edges_rotate (polygon : Polygon α) (count : Nat) :
    edges (polygon.rotate count) = polygon.edges.rotate count := by
  have either : (polygon.rotate count).rotate 1 = (polygon.rotate 1).rotate count := by
    rw [List.rotate_rotate, List.rotate_rotate, Nat.add_comm]
  rw [edges_eq_zip_rotate, edges_eq_zip_rotate, either]
  exact (List.zipWith_rotate_distrib Prod.mk polygon (polygon.rotate 1) count
    (List.length_rotate ..).symm).symm

/-- The reversed polygon has every edge the other way round. -/
theorem edges_reverse_perm (polygon : Polygon α) :
    (edges polygon.reverse).Perm (polygon.edges.map Prod.swap) := by
  have last : (polygon.rotate 1).reverse.rotate 1 = polygon.reverse := by
    cases polygon with
    | nil => rfl
    | cons first rest => simp
  have turnedBack :
      edges polygon.reverse = ((polygon.rotate 1).zip polygon).reverse.rotate 1 := by
    rw [edges_eq_zip_rotate, List.zip_eq_zipWith, List.zip_eq_zipWith,
      List.reverse_zipWith (List.length_rotate ..),
      List.zipWith_rotate_distrib _ _ _ _ (by simp), last]
  rw [turnedBack, edges_eq_zip_rotate, List.zip_swap]
  exact (List.rotate_perm _ 1).trans (List.reverse_perm _)

theorem edges_map (f : α × α → β × β) (polygon : Polygon α) :
    edges (polygon.map f) = polygon.edges.map (Prod.map f f) := by
  rw [edges_eq_zip_rotate, edges_eq_zip_rotate, ← List.map_rotate, List.zip_map]

/-- The corners are the starts of the edges. -/
theorem map_starts (f : α × α → γ) (polygon : Polygon α) :
    (polygon.edges.map fun edge => f edge.1) = polygon.map f := by
  have starts : polygon.edges.map Prod.fst = polygon := by
    rw [edges_eq_zip_rotate]
    exact List.map_fst_zip (List.length_rotate ..).ge
  rw [show (fun edge : (α × α) × (α × α) => f edge.1) = f ∘ Prod.fst from rfl, ← List.map_map,
    starts]

/-- The corners are the finishes of the edges, from the second corner on. -/
theorem map_finishes (f : α × α → γ) (polygon : Polygon α) :
    (polygon.edges.map fun edge => f edge.2) = (polygon.map f).rotate 1 := by
  have finishes : polygon.edges.map Prod.snd = polygon.rotate 1 := by
    rw [edges_eq_zip_rotate]
    exact List.map_snd_zip (List.length_rotate ..).le
  rw [show (fun edge : (α × α) × (α × α) => f edge.2) = f ∘ Prod.snd from rfl, ← List.map_map,
    finishes, List.map_rotate]

/-- The edges along the corners from the first one to a later one, and from there back. -/
theorem edges_cut (first corner : α × α) (front back : Polygon α) :
    edges (first :: front ++ corner :: back) =
      (first :: front).zip (front ++ [corner]) ++ (corner :: back).zip (back ++ [first]) := by
  have finishes : turned (first :: front ++ corner :: back) =
      (front ++ [corner]) ++ (back ++ [first]) := by
    simp [turned]
  rw [edges, finishes]
  exact List.zip_append (by simp)

end Edges

/-! ### Area -/

theorem edgeTerm_rat (start finish : Rat × Rat) :
    edgeTerm start finish = start.1 * finish.2 - finish.1 * start.2 := rfl

theorem edgeTerm_self (corner : Rat × Rat) : edgeTerm corner corner = 0 := by
  rw [edgeTerm_rat]
  exact sub_self _

theorem edgeTerm_swap (start finish : Rat × Rat) :
    edgeTerm finish start = -edgeTerm start finish := by
  rw [edgeTerm_rat, edgeTerm_rat]
  exact (neg_sub _ _).symm

/-- The sum of the edge terms over some edges. -/
def sweep (edges : List ((Rat × Rat) × (Rat × Rat))) : Rat :=
  (edges.map fun edge => edgeTerm edge.1 edge.2).sum

theorem sweep_append (first second : List ((Rat × Rat) × (Rat × Rat))) :
    sweep (first ++ second) = sweep first + sweep second := by
  rw [sweep, List.map_append, List.sum_append, sweep, sweep]

theorem sweep_cons (edge : (Rat × Rat) × (Rat × Rat))
    (rest : List ((Rat × Rat) × (Rat × Rat))) :
    sweep (edge :: rest) = edgeTerm edge.1 edge.2 + sweep rest := by
  rw [sweep, List.map_cons, List.sum_cons, sweep]

theorem sweep_perm {first second : List ((Rat × Rat) × (Rat × Rat))} (perm : first.Perm second) :
    sweep first = sweep second :=
  (perm.map _).sum_eq

theorem sweep_swap (edges : List ((Rat × Rat) × (Rat × Rat))) :
    sweep (edges.map Prod.swap) = -sweep edges := by
  rw [sweep, sweep, List.sum_neg, List.map_map, List.map_map]
  refine congrArg List.sum (List.map_congr_left fun edge _ => ?_)
  exact edgeTerm_swap edge.1 edge.2

/-- The area is half of what the edges sweep over, also where the shortcut answers. -/
theorem area_eq_sweep (polygon : Polygon Rat) : polygon.area = 1 / 2 * sweep polygon.edges := by
  have terms : polygon.edgeTerms = polygon.edges.map fun edge => edgeTerm edge.1 edge.2 := by
    rw [edges, List.map_zip_eq_zipWith]
    rfl
  have half : (Scalar.one / Scalar.ofInt 2 : Rat) = 1 / 2 := by
    rw [Scalar.one_rat]
    rfl
  unfold area
  split
  next few =>
    rw [Scalar.zero_rat]
    match polygon, few with
    | [], _ => exact (mul_zero (1 / 2 : Rat)).symm
    | [corner], _ =>
        show 0 = 1 / 2 * sweep [(corner, corner)]
        rw [sweep_cons, edgeTerm_self]
        simp [sweep]
    | [first, second], _ =>
        show 0 = 1 / 2 * sweep [(first, second), (second, first)]
        rw [sweep_cons, sweep_cons, edgeTerm_swap first second]
        simp [sweep]
  next =>
    rw [total_rat, terms, half]
    rfl

/-! ### Laws -/

theorem area_rotate (polygon : Polygon Rat) (count : Nat) :
    area (polygon.rotate count) = polygon.area := by
  rw [area_eq_sweep, area_eq_sweep, edges_rotate, sweep_perm (List.rotate_perm _ count)]

theorem area_reverse (polygon : Polygon Rat) : area polygon.reverse = -polygon.area := by
  rw [area_eq_sweep, area_eq_sweep, sweep_perm polygon.edges_reverse_perm, sweep_swap]
  exact mul_neg _ _

/-- A chord between two corners cuts a polygon into two whose areas add up. -/
theorem area_chord (first corner : Rat × Rat) (front back : Polygon Rat) :
    area (first :: front ++ corner :: back) =
      area (first :: front ++ [corner]) + area (first :: corner :: back) := by
  have front_closed : edges (first :: front ++ [corner]) =
      (first :: front).zip (front ++ [corner]) ++ [(corner, first)] :=
    edges_cut first corner front []
  have back_closed : edges (first :: corner :: back) =
      (first, corner) :: (corner :: back).zip (back ++ [first]) :=
    edges_cut first corner [] back
  simp only [area_eq_sweep, edges_cut, front_closed, back_closed, sweep_append, sweep_cons]
  -- the chord is run through once in each direction
  have chord := edgeTerm_swap first corner
  have none : sweep [] = 0 := rfl
  linear_combination (-1 / 2) * chord - 1 / 2 * none

/-- A polygon is cut along the chord from its first corner to any other one; a cut at its first
corner, or behind its last one, takes nothing off. -/
theorem area_cut (first : Rat × Rat) (rest : Polygon Rat) (count : Nat) :
    area (first :: rest) =
      area ((first :: rest).take (count + 1)) + area (first :: (first :: rest).drop count) := by
  have point : ∀ corner : Rat × Rat, area [corner] = 0 := fun _ => rfl
  cases count with
  | zero =>
      have repeated : area (first :: first :: rest) = area (first :: rest) := by
        have edge : edges (first :: first :: rest) = (first, first) :: edges (first :: rest) := rfl
        rw [area_eq_sweep, area_eq_sweep, edge, sweep_cons, edgeTerm_self, zero_add]
      rw [List.drop_zero, repeated]
      exact (zero_add _).symm
  | succ count =>
      rw [List.take_succ_cons, List.drop_succ_cons]
      by_cases inside : count < rest.length
      · have split : rest = rest.take count ++ rest[count] :: rest.drop (count + 1) := by
          rw [← List.drop_eq_getElem_cons inside, List.take_append_drop]
        have cut := area_chord first rest[count] (rest.take count) (rest.drop (count + 1))
        rw [List.cons_append, ← split] at cut
        rw [cut, List.take_succ_eq_append_getElem inside, List.drop_eq_getElem_cons inside]
        rfl
      · rw [List.take_of_length_le (by omega), List.drop_of_length_le (by omega), point, add_zero]

/-- What an affine map does to the term of an edge: it scales it, and adds a difference between
the two ends. -/
theorem edgeTerm_affine (map : AffineMap Rat) (start finish : Rat × Rat) :
    edgeTerm (map.apply start) (map.apply finish) +
        (map.xShift * (map.apply start).2 - map.yShift * (map.apply start).1) =
      (map.xx * map.yy - map.xy * map.yx) * edgeTerm start finish +
        (map.xShift * (map.apply finish).2 - map.yShift * (map.apply finish).1) := by
  simp only [edgeTerm_rat]
  show (map.xx * start.1 + map.xy * start.2 + map.xShift) *
      (map.yx * finish.1 + map.yy * finish.2 + map.yShift) -
      (map.xx * finish.1 + map.xy * finish.2 + map.xShift) *
      (map.yx * start.1 + map.yy * start.2 + map.yShift) +
      (map.xShift * (map.yx * start.1 + map.yy * start.2 + map.yShift) -
        map.yShift * (map.xx * start.1 + map.xy * start.2 + map.xShift)) =
    (map.xx * map.yy - map.xy * map.yx) * (start.1 * finish.2 - finish.1 * start.2) +
      (map.xShift * (map.yx * finish.1 + map.yy * finish.2 + map.yShift) -
        map.yShift * (map.xx * finish.1 + map.xy * finish.2 + map.xShift))
  ring

/-- Over a closed polygon, differences between the two ends of the edges cancel. -/
theorem sum_starts_eq_sum_finishes (f : Rat × Rat → Rat) (polygon : Polygon Rat) :
    (polygon.edges.map fun edge => f edge.1).sum =
      (polygon.edges.map fun edge => f edge.2).sum := by
  rw [map_starts, map_finishes]
  exact (List.rotate_perm _ 1).sum_eq.symm

theorem area_map_affine (map : AffineMap Rat) (polygon : Polygon Rat) :
    area (polygon.map map.apply) = (map.xx * map.yy - map.xy * map.yx) * polygon.area := by
  let shift (corner : Rat × Rat) : Rat :=
    map.xShift * (map.apply corner).2 - map.yShift * (map.apply corner).1
  have swept : sweep (edges (polygon.map map.apply)) =
      (map.xx * map.yy - map.xy * map.yx) * sweep polygon.edges := by
    have ends := sum_starts_eq_sum_finishes shift polygon
    have terms : (polygon.edges.map fun edge =>
        edgeTerm (map.apply edge.1) (map.apply edge.2) + shift edge.1).sum =
        (polygon.edges.map fun edge =>
          (map.xx * map.yy - map.xy * map.yx) * edgeTerm edge.1 edge.2 + shift edge.2).sum :=
      congrArg List.sum (List.map_congr_left fun edge _ => edgeTerm_affine map edge.1 edge.2)
    rw [List.sum_map_add, List.sum_map_add, List.sum_map_mul_left, ends] at terms
    rw [edges_map, sweep, List.map_map]
    exact add_right_cancel terms
  rw [area_eq_sweep, area_eq_sweep, swept]
  ring

theorem mappedArea_eq_area_map (f : Rat × Rat → Rat × Rat) (polygon : Polygon Rat) :
    polygon.mappedArea f = area (polygon.map f) := by
  unfold mappedArea
  split
  next few => rw [area, if_pos (by rwa [List.length_map])]
  next => rfl

/-- Coordinate vectors list the corners that they have together. -/
theorem ofCoordinates_corners {α : Type} (polygon : Polygon α) :
    ofCoordinates (.ofList (polygon.map (·.1))) (.ofList (polygon.map (·.2))) = .ok polygon := by
  have shapes :
      (Tensor.ofList (polygon.map (·.1))).shape = (Tensor.ofList (polygon.map (·.2))).shape
      ∧ (Tensor.ofList (polygon.map (·.1))).rank = 1 := by
    simp [Tensor.ofList, Tensor.rank]
  rw [ofCoordinates, if_pos shapes]
  have paired : (polygon.map (·.1)).zip (polygon.map (·.2)) = polygon :=
    (List.zip_map' ..).trans (List.map_id polygon)
  exact congrArg Except.ok paired

/-- The signed area of a polygon of any number of corners, which two coordinate vectors list, does
not depend on the corner at which the list begins, changes its sign with the winding, adds up over
the two parts on both sides of a chord, and is scaled by every affine map with the determinant of
its linear part. -/
theorem signed_area_laws (polygon : Polygon Rat) :
    ofCoordinates (.ofList (polygon.map (·.1))) (.ofList (polygon.map (·.2))) = .ok polygon ∧
    (∀ count, area (polygon.rotate count) = polygon.area) ∧
    area polygon.reverse = -polygon.area ∧
    (∀ (first : Rat × Rat) (rest : Polygon Rat) (count : Nat), area (first :: rest) =
      area ((first :: rest).take (count + 1)) + area (first :: (first :: rest).drop count)) ∧
    ∀ map : AffineMap Rat, polygon.mappedArea map.apply =
      (map.xx * map.yy - map.xy * map.yx) * polygon.area := by
  refine ⟨ofCoordinates_corners polygon, area_rotate polygon, area_reverse polygon, area_cut,
    fun map => ?_⟩
  rw [mappedArea_eq_area_map, area_map_affine]

end Regrid.Polygon
