import Regrid.Array.Sum
import Regrid.Array.Tensor

/-!
Contract: signed area and centroid of planar polygons.

Owns:
- polygons as lists of corners, closed by an edge from the last corner to the first;
- the surveyor's formula and the centroid formula;
- affine maps of the plane.

A polygon that winds counter-clockwise has a positive area. The winding is the
caller's to choose.
-/

namespace Regrid

/-- The corners of a polygon in order. -/
abbrev Polygon (α : Type) := List (α × α)

namespace Polygon

variable {α : Type} [Scalar α]

/-- The corners that parallel coordinate vectors list. -/
def ofCoordinates (xs ys : Tensor α) : Except Error (Polygon α) :=
  if xs.shape = ys.shape ∧ xs.rank = 1 then .ok (xs.items.zip ys.items)
  else .error (.polygonShapes xs.shape ys.shape)

/-- The corners with the first one moved to the end. -/
def turned : Polygon α → Polygon α
  | [] => []
  | first :: rest => rest ++ [first]

/-- Twice the signed area between the origin and an edge. -/
def edgeTerm (start finish : α × α) : α := start.1 * finish.2 - finish.1 * start.2

/-- The edge terms of all edges, the closing edge included. -/
def edgeTerms (polygon : Polygon α) : List α :=
  polygon.zipWith edgeTerm polygon.turned

/-- The signed area; fewer than three corners enclose none. -/
def area (polygon : Polygon α) : α :=
  if polygon.length < 3 then Scalar.zero
  else Scalar.one / Scalar.ofInt 2 * total polygon.edgeTerms

/-- The signed area after every corner has been moved by a map. -/
def mappedArea (f : α × α → α × α) (polygon : Polygon α) : α :=
  if polygon.length < 3 then Scalar.zero else area (polygon.map f)

def isCounterClockwise (polygon : Polygon α) : Bool := Scalar.below Scalar.zero polygon.area

/-- The sum over all edges of one coordinate of both ends, weighted by the edge terms. -/
def moment (coordinate : α × α → α) (polygon : Polygon α) : α :=
  total ((polygon.zipWith (fun start finish => coordinate start + coordinate finish)
    polygon.turned).zipWith (· * ·) polygon.edgeTerms)

/-- The centre of gravity; a polygon without area has none. -/
def centroid (polygon : Polygon α) : Except Error (α × α) :=
  let area := polygon.area
  if Scalar.isZero area then .error .degeneratePolygon
  else
    let factor := Scalar.one / (Scalar.ofInt 6 * area)
    .ok (polygon.moment (·.1) * factor, polygon.moment (·.2) * factor)

end Polygon

/-- An affine map of the plane, by the coefficients of its two coordinates. -/
structure AffineMap (α : Type) where
  xx : α
  xy : α
  xShift : α
  yx : α
  yy : α
  yShift : α

def AffineMap.apply {α : Type} [Scalar α] (map : AffineMap α) (point : α × α) : α × α :=
  ((map.xx * point.1 + map.xy * point.2) + map.xShift,
   (map.yx * point.1 + map.yy * point.2) + map.yShift)

end Regrid
