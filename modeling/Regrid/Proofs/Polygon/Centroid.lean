import Mathlib.Tactic.FieldSimp
import Regrid.Proofs.Polygon.Area

/-!
Contract: laws of the centre of gravity, for polygons of any number of corners, in exact arithmetic.

Owns:
- the moments of a polygon along a direction, as sums over its edges;
- the centre of gravity as the point at which the moments balance the area;
- the laws that the centre of gravity has because the moments have them.

Does not own: the laws of the area, and rounding.

The centre of gravity is a quotient of two sums, and every law is one about the sums: the equation
of balance is turned, reversed, moved or added up, and only then divided. The equation is asked for
along every direction and not only along the two axes, since an affine map turns the axes.
-/

namespace Regrid.Polygon

/-! ### Moments -/

/-- How far a point lies along a direction. -/
def along (direction point : Rat × Rat) : Rat :=
  direction.1 * point.1 + direction.2 * point.2

/-- The sum over some edges of how far both ends lie along a direction, weighted by the edge
terms. -/
def lever (direction : Rat × Rat) (edges : List ((Rat × Rat) × (Rat × Rat))) : Rat :=
  (edges.map fun edge =>
    (along direction edge.1 + along direction edge.2) * edgeTerm edge.1 edge.2).sum

variable {direction : Rat × Rat}

theorem lever_append (first second : List ((Rat × Rat) × (Rat × Rat))) :
    lever direction (first ++ second) = lever direction first + lever direction second := by
  rw [lever, List.map_append, List.sum_append, lever, lever]

theorem lever_cons (edge : (Rat × Rat) × (Rat × Rat))
    (rest : List ((Rat × Rat) × (Rat × Rat))) :
    lever direction (edge :: rest) =
      (along direction edge.1 + along direction edge.2) * edgeTerm edge.1 edge.2 +
        lever direction rest := by
  rw [lever, List.map_cons, List.sum_cons, lever]

theorem lever_perm {first second : List ((Rat × Rat) × (Rat × Rat))} (perm : first.Perm second) :
    lever direction first = lever direction second :=
  (perm.map _).sum_eq

theorem lever_swap (edges : List ((Rat × Rat) × (Rat × Rat))) :
    lever direction (edges.map Prod.swap) = -lever direction edges := by
  rw [lever, lever, List.sum_neg, List.map_map, List.map_map]
  refine congrArg List.sum (List.map_congr_left fun edge _ => ?_)
  show (along direction edge.2 + along direction edge.1) * edgeTerm edge.2 edge.1 =
    -((along direction edge.1 + along direction edge.2) * edgeTerm edge.1 edge.2)
  rw [edgeTerm_swap edge.1 edge.2]
  ring

/-- Moments along a direction are put together from those along the two axes. -/
theorem lever_eq_axes (direction : Rat × Rat) (edges : List ((Rat × Rat) × (Rat × Rat))) :
    lever direction edges =
      direction.1 * lever (1, 0) edges + direction.2 * lever (0, 1) edges := by
  rw [lever, lever, lever, ← List.sum_map_mul_left, ← List.sum_map_mul_left, ← List.sum_map_add]
  refine congrArg List.sum (List.map_congr_left fun edge _ => ?_)
  simp only [along]
  ring

theorem moment_eq_lever (direction : Rat × Rat) (coordinate : Rat × Rat → Rat)
    (axis : ∀ point, along direction point = coordinate point) (polygon : Polygon Rat) :
    polygon.moment coordinate = lever direction polygon.edges := by
  have terms : (polygon.zipWith (fun start finish => coordinate start + coordinate finish)
      polygon.turned).zipWith (· * ·) polygon.edgeTerms = polygon.edges.map fun edge =>
        (along direction edge.1 + along direction edge.2) * edgeTerm edge.1 edge.2 := by
    simp only [axis]
    rw [edgeTerms, edges, ← List.map_uncurry_zip_eq_zipWith (f := edgeTerm),
      ← List.map_uncurry_zip_eq_zipWith
        (f := fun start finish => coordinate start + coordinate finish),
      List.zipWith_map, List.zipWith_self]
    rfl
  rw [moment, total_rat, terms]
  rfl

/-- The direction along which a point lies as far as its image along the given direction, up to
the shift of the map. -/
def pulledBack (map : AffineMap Rat) (direction : Rat × Rat) : Rat × Rat :=
  (direction.1 * map.xx + direction.2 * map.yx, direction.1 * map.xy + direction.2 * map.yy)

theorem along_apply (map : AffineMap Rat) (direction point : Rat × Rat) :
    along direction (map.apply point) =
      along (pulledBack map direction) point + along direction (map.xShift, map.yShift) := by
  show direction.1 * (map.xx * point.1 + map.xy * point.2 + map.xShift) +
      direction.2 * (map.yx * point.1 + map.yy * point.2 + map.yShift) =
    (direction.1 * map.xx + direction.2 * map.yx) * point.1 +
      (direction.1 * map.xy + direction.2 * map.yy) * point.2 +
      (direction.1 * map.xShift + direction.2 * map.yShift)
  ring

/-- What two differences between the ends of an edge leave over when one of them is weighted. -/
theorem weighted_difference (direction shift start finish : Rat × Rat) :
    (along direction start + along direction finish) *
        ((shift.1 * finish.2 - shift.2 * finish.1) - (shift.1 * start.2 - shift.2 * start.1)) =
      along direction shift * edgeTerm start finish +
        (along direction finish * (shift.1 * finish.2 - shift.2 * finish.1) -
          along direction start * (shift.1 * start.2 - shift.2 * start.1)) := by
  rw [edgeTerm_rat]
  simp only [along]
  ring

/-- The moment of the image of a polygon is one of the polygon itself, and a part that grows with
the shift and the area. -/
theorem lever_map_affine (map : AffineMap Rat) (direction : Rat × Rat) (polygon : Polygon Rat) :
    lever direction (edges (polygon.map map.apply)) =
      (map.xx * map.yy - map.xy * map.yx) * (lever (pulledBack map direction) polygon.edges +
        3 * along direction (map.xShift, map.yShift) * sweep polygon.edges) := by
  let image (point : Rat × Rat) : Rat := along direction (map.apply point)
  let origin : Rat := along direction (map.xShift, map.yShift)
  let shift (point : Rat × Rat) : Rat :=
    map.xShift * (map.apply point).2 - map.yShift * (map.apply point).1
  have term : ∀ start finish : Rat × Rat,
      (image start + image finish) * edgeTerm (map.apply start) (map.apply finish) +
          (image start + origin) * shift start =
        (map.xx * map.yy - map.xy * map.yx) *
          ((along (pulledBack map direction) start + along (pulledBack map direction) finish) *
              edgeTerm start finish + 3 * origin * edgeTerm start finish) +
          (image finish + origin) * shift finish := by
    intro start finish
    have scaled := edgeTerm_affine map start finish
    have weighted := weighted_difference direction (map.xShift, map.yShift) (map.apply start)
      (map.apply finish)
    have first : image start = along (pulledBack map direction) start + origin :=
      along_apply map direction start
    have second : image finish = along (pulledBack map direction) finish + origin :=
      along_apply map direction finish
    linear_combination (image start + image finish + origin) * scaled + weighted +
      (map.xx * map.yy - map.xy * map.yx) * edgeTerm start finish * (first + second)
  have ends :=
    sum_starts_eq_sum_finishes (fun point => (image point + origin) * shift point) polygon
  have terms := congrArg List.sum (List.map_congr_left fun edge (_ : edge ∈ polygon.edges) =>
    term edge.1 edge.2)
  rw [List.sum_map_add, List.sum_map_add, List.sum_map_mul_left, List.sum_map_add,
    List.sum_map_mul_left, ends] at terms
  rw [edges_map, lever, List.map_map]
  exact add_right_cancel terms

/-! ### The balancing point -/

/-- The moments of a polygon that has an area balance it at a point. -/
structure Balances (polygon : Polygon Rat) (point : Rat × Rat) : Prop where
  encloses : polygon.area ≠ 0
  balance : ∀ direction, 6 * polygon.area * along direction point = lever direction polygon.edges

theorem centroid_of_area_eq_zero {polygon : Polygon Rat} (flat : polygon.area = 0) :
    polygon.centroid = .error .degeneratePolygon := by
  unfold centroid
  exact if_pos ((Scalar.isZero_rat _).mpr flat)

/-- A polygon that encloses an area is balanced at its centre of gravity. -/
theorem exists_centroid {polygon : Polygon Rat} (encloses : polygon.area ≠ 0) :
    ∃ point, polygon.centroid = .ok point ∧ polygon.Balances point := by
  have some : ¬ Scalar.isZero polygon.area = true :=
    fun none => encloses ((Scalar.isZero_rat _).mp none)
  have factor : (Scalar.one / (Scalar.ofInt 6 * polygon.area) : Rat) = 1 / (6 * polygon.area) := by
    rw [Scalar.one_rat]
    rfl
  refine ⟨(lever (1, 0) polygon.edges * (1 / (6 * polygon.area)),
    lever (0, 1) polygon.edges * (1 / (6 * polygon.area))), ?_, encloses, fun direction => ?_⟩
  · unfold centroid
    rw [if_neg some, factor, moment_eq_lever (1, 0) (·.1) (by simp [along]),
      moment_eq_lever (0, 1) (·.2) (by simp [along])]
  · rw [lever_eq_axes direction, along]
    field_simp

variable {polygon : Polygon Rat} {point : Rat × Rat}

/-- A polygon is balanced at no other point than its centre of gravity. -/
theorem Balances.centroid_eq (balances : polygon.Balances point) :
    polygon.centroid = .ok point := by
  obtain ⟨other, answered, otherBalances⟩ := exists_centroid balances.encloses
  have same : ∀ direction, along direction other = along direction point := fun direction =>
    mul_left_cancel₀ (mul_ne_zero (by norm_num) balances.encloses)
      ((otherBalances.balance direction).trans (balances.balance direction).symm)
  have first := same (1, 0)
  have second := same (0, 1)
  simp only [along, one_mul, zero_mul, add_zero, zero_add] at first second
  rw [answered, Prod.ext first second]

/-! ### Laws -/

/-- Where one polygon balances at a point, another one balances at the image of the point. Then its
centre of gravity is the image of the other one's, and both have none if the area vanishes. -/
theorem centroid_moved {other : Polygon Rat} (moved : Rat × Rat → Rat × Rat)
    (flat : polygon.area = 0 → other.area = 0)
    (balances : ∀ point, polygon.Balances point → other.Balances (moved point)) :
    other.centroid = polygon.centroid.map moved := by
  by_cases none : polygon.area = 0
  · rw [centroid_of_area_eq_zero none, centroid_of_area_eq_zero (flat none)]
    rfl
  · obtain ⟨point, answered, own⟩ := exists_centroid none
    rw [answered, (balances point own).centroid_eq]
    rfl

theorem Balances.rotate (balances : polygon.Balances point) (count : Nat) :
    Balances (polygon.rotate count) point where
  encloses := by
    rw [area_rotate]
    exact balances.encloses
  balance direction := by
    rw [area_rotate, edges_rotate, lever_perm (List.rotate_perm _ count)]
    exact balances.balance direction

theorem Balances.reverse (balances : polygon.Balances point) :
    Balances polygon.reverse point where
  encloses := by
    rw [area_reverse]
    exact neg_ne_zero.mpr balances.encloses
  balance direction := by
    rw [area_reverse, lever_perm polygon.edges_reverse_perm, lever_swap,
      ← balances.balance direction]
    ring

theorem Balances.map_affine (balances : polygon.Balances point) (map : AffineMap Rat)
    (invertible : map.xx * map.yy - map.xy * map.yx ≠ 0) :
    Balances (polygon.map map.apply) (map.apply point) where
  encloses := by
    rw [area_map_affine]
    exact mul_ne_zero invertible balances.encloses
  balance direction := by
    have pulled := balances.balance (pulledBack map direction)
    have half := area_eq_sweep polygon
    rw [area_map_affine, lever_map_affine, along_apply]
    linear_combination (map.xx * map.yy - map.xy * map.yx) *
      (pulled + 6 * along direction (map.xShift, map.yShift) * half)

/-- The mean of two points with weights. -/
def weightedMean (weight otherWeight : Rat) (point other : Rat × Rat) : Rat × Rat :=
  ((weight * point.1 + otherWeight * other.1) / (weight + otherWeight),
    (weight * point.2 + otherWeight * other.2) / (weight + otherWeight))

theorem along_weightedMean {weight otherWeight : Rat} (some : weight + otherWeight ≠ 0)
    (direction point other : Rat × Rat) :
    (weight + otherWeight) * along direction (weightedMean weight otherWeight point other) =
      weight * along direction point + otherWeight * along direction other := by
  simp only [along, weightedMean]
  field_simp
  ring

/-- The moments of the two parts on both sides of a chord add up. -/
theorem lever_chord (direction first corner : Rat × Rat) (front back : Polygon Rat) :
    lever direction (edges (first :: front ++ corner :: back)) =
      lever direction (edges (first :: front ++ [corner])) +
        lever direction (edges (first :: corner :: back)) := by
  have front_closed : edges (first :: front ++ [corner]) =
      (first :: front).zip (front ++ [corner]) ++ [(corner, first)] :=
    edges_cut first corner front []
  have back_closed : edges (first :: corner :: back) =
      (first, corner) :: (corner :: back).zip (back ++ [first]) :=
    edges_cut first corner [] back
  simp only [edges_cut, front_closed, back_closed, lever_append, lever_cons]
  have chord := edgeTerm_swap first corner
  have none : lever direction [] = 0 := rfl
  linear_combination
    -(along direction first + along direction corner) * chord - none

/-- The parts of a polygon on both sides of a chord between any two of its corners, and the polygon
with its corners turned so that the chord begins at the first one. -/
theorem rotate_chord {before between after : Polygon Rat} {start finish : Rat × Rat} :
    (before ++ start :: between ++ finish :: after).rotate before.length =
        start :: between ++ finish :: (after ++ before) ∧
      (before ++ start :: finish :: after).rotate before.length =
        start :: finish :: (after ++ before) := by
  rw [List.append_assoc, List.rotate_append_length_eq, List.rotate_append_length_eq]
  exact ⟨List.append_assoc .., rfl⟩

/-- A chord cuts a polygon into two parts, and their centres of gravity with the areas as weights
have the centre of gravity of the whole as their mean. -/
theorem Balances.chord {before between after : Polygon Rat} {start finish first second : Rat × Rat}
    (front : Balances (start :: between ++ [finish]) first)
    (encloses : area (before ++ start :: between ++ finish :: after) ≠ 0)
    (back : Balances (before ++ start :: finish :: after) second) :
    Balances (before ++ start :: between ++ finish :: after)
      (weightedMean (area (start :: between ++ [finish]))
        (area (before ++ start :: finish :: after)) first second) := by
  obtain ⟨whole, part⟩ := @rotate_chord before between after start finish
  have areas : area (before ++ start :: between ++ finish :: after) =
      area (start :: between ++ [finish]) + area (before ++ start :: finish :: after) := by
    rw [← area_rotate _ before.length, whole, ← area_rotate (_ ++ _ :: _ :: _) before.length, part]
    exact area_chord ..
  refine ⟨encloses, fun direction => ?_⟩
  have levers : lever direction (edges (before ++ start :: between ++ finish :: after)) =
      lever direction (edges (start :: between ++ [finish])) +
        lever direction (edges (before ++ start :: finish :: after)) := by
    rw [← lever_perm (List.rotate_perm (edges (_ ++ _ ++ _)) before.length), ← edges_rotate,
      whole, ← lever_perm (List.rotate_perm (edges (_ ++ _ :: _ :: _)) before.length),
      ← edges_rotate, part]
    exact lever_chord ..
  rw [areas] at encloses
  rw [levers, ← front.balance direction, ← back.balance direction, areas, mul_assoc,
    along_weightedMean encloses]
  ring

/-- A polygon of any number of corners, which two coordinate vectors list, has a centre of gravity
exactly if its signed area is not zero. The centre of gravity does not depend on the corner at which
the list begins nor on the winding, is moved by every invertible affine map together with the
corners, and is the mean of those of the two parts on both sides of a chord, weighted by their
areas. -/
theorem centroid_laws (polygon : Polygon Rat) :
    ofCoordinates (.ofList (polygon.map (·.1))) (.ofList (polygon.map (·.2))) = .ok polygon ∧
    ((∃ reason, polygon.centroid = .error reason) ↔ polygon.area = 0) ∧
    (∀ count, centroid (polygon.rotate count) = polygon.centroid) ∧
    centroid polygon.reverse = polygon.centroid ∧
    (∀ map : AffineMap Rat, map.xx * map.yy - map.xy * map.yx ≠ 0 →
      centroid (polygon.map map.apply) = polygon.centroid.map map.apply) ∧
    ∀ (before between after : Polygon Rat) (start finish : Rat × Rat),
      polygon = before ++ start :: between ++ finish :: after → polygon.area ≠ 0 →
      area (start :: between ++ [finish]) ≠ 0 → area (before ++ start :: finish :: after) ≠ 0 →
      ∃ first second, centroid (start :: between ++ [finish]) = .ok first ∧
        centroid (before ++ start :: finish :: after) = .ok second ∧
        polygon.centroid = .ok (weightedMean (area (start :: between ++ [finish]))
          (area (before ++ start :: finish :: after)) first second) := by
  refine ⟨ofCoordinates_corners polygon, ?_, fun count => ?_, ?_, fun map invertible => ?_, ?_⟩
  · constructor
    · rintro ⟨reason, refused⟩
      by_contra encloses
      obtain ⟨point, answered, _⟩ := exists_centroid encloses
      cases answered.symm.trans refused
    · exact fun flat => ⟨_, centroid_of_area_eq_zero flat⟩
  · have turned := centroid_moved id (fun flat => (area_rotate polygon count).trans flat)
      fun _ balances => balances.rotate count
    rwa [Except.map_id] at turned
  · have reversed := centroid_moved id (fun flat => by rw [area_reverse, flat, neg_zero])
      fun _ (balances : polygon.Balances _) => balances.reverse
    rwa [Except.map_id] at reversed
  · exact centroid_moved map.apply (fun flat => by rw [area_map_affine, flat, mul_zero])
      fun _ balances => balances.map_affine map invertible
  · rintro before between after start finish rfl encloses frontEncloses backEncloses
    obtain ⟨first, frontAnswered, front⟩ := exists_centroid frontEncloses
    obtain ⟨second, backAnswered, back⟩ := exists_centroid backEncloses
    exact ⟨first, second, frontAnswered, backAnswered, (front.chord encloses back).centroid_eq⟩

/-- A quadrilateral with a notch, at the tip of which it balances. -/
def dart : Polygon Rat := [(0, 0), (4, 0), (1, 1), (0, 4)]

/-- A map that turns the winding. -/
def shear : AffineMap Rat where
  xx := 1
  xy := 3
  xShift := 1 / 2
  yx := 1
  yy := 1
  yShift := -3

theorem area_dart_parts : dart.area = 4 ∧ area [(0, 0), (4, 0), (1, 1)] = (2 : Rat) ∧
    area [(0, 0), (1, 1), (0, 4)] = (2 : Rat) := by
  simp only [area_eq_sweep, edges, dart, turned, List.cons_append, List.nil_append,
    List.zip_cons_cons, List.zip_nil_left, sweep_cons, edgeTerm_rat]
  norm_num [sweep]

theorem balances_dart : dart.Balances (1, 1) where
  encloses := by
    rw [area_dart_parts.1]
    norm_num
  balance direction := by
    rw [area_dart_parts.1]
    simp only [edges, dart, turned, List.cons_append, List.nil_append, List.zip_cons_cons,
      List.zip_nil_left, lever_cons, edgeTerm_rat, along]
    norm_num [lever]
    ring

/-- The dart and its image under the shear both have a centre of gravity, at corresponding points,
and a chord to the notch cuts the dart into two triangles. -/
theorem dart_balances_at_its_notch :
    dart.centroid = .ok (1, 1) ∧ shear.xx * shear.yy - shear.xy * shear.yx ≠ 0 ∧
    centroid (dart.map shear.apply) = dart.centroid.map shear.apply ∧
    ∃ first second, centroid [(0, 0), (4, 0), (1, 1)] = .ok first ∧
      centroid [(0, 0), (1, 1), (0, 4)] = .ok second ∧
      dart.centroid = .ok (weightedMean 2 2 first second) := by
  obtain ⟨_, front, back⟩ := area_dart_parts
  have encloses := balances_dart.encloses
  have invertible : shear.xx * shear.yy - shear.xy * shear.yx ≠ 0 := by
    norm_num [shear]
  obtain ⟨_, _, _, _, moved, cut⟩ := centroid_laws dart
  refine ⟨balances_dart.centroid_eq, invertible, moved shear invertible, ?_⟩
  have parts := cut [] [(4, 0)] [(0, 4)] (0, 0) (1, 1) rfl encloses
  simp only [List.nil_append, List.cons_append] at parts
  rw [front, back] at parts
  exact parts two_ne_zero two_ne_zero

end Regrid.Polygon
