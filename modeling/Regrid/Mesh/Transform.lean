import Regrid.Mesh.Geometry
import Regrid.Projection

/-!
Contract: map projections of a mesh.

Owns:
- the transforms that suit the coordinates of a mesh;
- the areas of cells on a projection.

The coordinates of the mesh are checked before the projection text is read.
-/

namespace Regrid.Mesh

variable {ν κ : Type}

/-- The transform from the degrees of a mesh to a plane. -/
def transformToPlane (projection : Value) (mesh : Mesh ν κ) : Except Error MapTransform :=
  match mesh.coordinates with
  | .lonLat => MapTransform.create projection .toPlane
  | .xy => .error (.wrongCoordinates .lonLat)

/-- The transform from the plane of a mesh to degrees. An absent projection stands for the
projection of the mesh itself. -/
def transformToGlobe (projection : Value) (mesh : Mesh ν κ) : Except Error MapTransform :=
  match mesh.coordinates with
  | .xy =>
    MapTransform.create
      (if projection.isBlankOption then mesh.projection else projection) .toGlobe
  | .lonLat => .error (.wrongCoordinates .xy)

/-- The areas of the cells on a projection, over all cells of the domain. -/
def projectedAreas (projection : Value) (grid : Grid Float) : Except Error (List Float) := do
  let transform ← grid.transformToPlane projection
  grid.mappedAreaVector Scalar.unknown transform.apply

/-- The significant digits that projected areas are shown with. -/
def shownArea (area : Float) : Float := Decimal.roundDigits 8 area

end Regrid.Mesh
