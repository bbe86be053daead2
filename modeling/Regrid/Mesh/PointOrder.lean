import Regrid.Mesh.Runs
import Regrid.Scalar

/-!
Contract: the order in which points are numbered.

Owns:
- the order of points, by their first coordinate and then by their second one;
- the ordering of items by their points, which is stable.

A point with a coordinate that equals nothing, not even itself, has no place in the order.
Where there is such a point the items are arranged run by run, so that the result depends
on the comparisons that this makes.
-/

namespace Regrid.PointOrder

variable {α ι : Type} [Scalar α]

/-- One point comes before another. -/
def precedes (first second : α × α) : Bool :=
  if Scalar.equal first.1 second.1 then Scalar.below first.2 second.2
  else Scalar.below first.1 second.1

/-- A point has a place in the order. -/
def isPlaceable (point : α × α) : Bool :=
  Scalar.equal point.1 point.1 && Scalar.equal point.2 point.2

/-- Items by ascending point; items with one point keep their order. -/
def sort (point : ι → α × α) (items : List ι) : List ι :=
  if items.all fun item => isPlaceable (point item) then
    items.mergeSort fun first second => !precedes (point second) (point first)
  else Runs.arrange (fun first second => precedes (point first) (point second)) items

end Regrid.PointOrder
