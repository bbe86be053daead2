import Regrid.Coupling.Sheet
import Regrid.Sparse.Accumulator
import Regrid.Sparse.Builder

/-!
Contract: the operators of one ice sheet and of several sheets together.

Owns:
- the ice-covered area of model cells;
- height points to ice data points, as averages;
- height points to model cells, as areas for one sheet and as averages for several.

Every sheet is given with the meshes as they are now. All operators are computed
from the listed overlaps.
-/

namespace Regrid

variable {γ α : Type} [Scalar α]

/-- The reciprocal of each area, and zero where the area vanishes. -/
def reciprocals (areas : List α) : List α :=
  areas.map fun area => if Scalar.isZero area then Scalar.zero else Scalar.one / area

namespace Sheet

/-- Adds the area of every overlap to its model cell. -/
def accumulateAreas (sheet : Sheet γ α) (areas : Accumulator α) :
    Except Error (Accumulator α) := do
  (← sheet.requireOverlaps).foldlM (fun areas overlap => do
    return areas.add (← overlap.modelCell.toInteger) overlap.area) areas

/-- One more entry of an operator over height points, for the given row. -/
def addOverlap (sheet : Sheet γ α) (row : Value) (overlap : Overlap α)
    (builder : SparseBuilder α) : Except Error (SparseBuilder α) := do
  let column ← sheet.heightIndex overlap.modelCell overlap.elevation
  return (← (SparseBuilder.addAt row column overlap.area).whole builder).2

def fixedShape (rows columns : Value) (builder : SparseBuilder α) :
    Except Error (SparseBuilder α) := do
  return (← (SparseBuilder.fixShape rows columns).whole builder).2

/-- The operator from height points to ice data points; each row is an
area-weighted average. -/
def heightToIce {ν κ : Type} (sheet : Sheet (Mesh ν κ) α) :
    Except Error (DenseOperator α) := do
  let overlaps ← sheet.requireOverlaps
  let builder ← overlaps.foldlM
    (fun builder overlap => sheet.addOverlap overlap.icePoint overlap builder) {}
  let columns ← sheet.heightSpace
  let operator ← (← fixedShape (.int sheet.iceMesh.fieldLength) columns builder).toOperator
  operator.scaleRows (.ofList (reciprocals operator.matrix.rowSums))

/-- The operator from height points to model cells, with areas as entries. The area
of every overlap is added to its model cell as soon as its entry is made, so the
sums keep what was added when a later entry is refused. -/
def heightToModel (sheet : Sheet γ α) : Attempt (Accumulator α) (DenseOperator α) := do
  let overlaps ← sheet.requireOverlaps
  let builder ← overlaps.foldlM (fun builder overlap => do
    let builder ← sheet.addOverlap overlap.modelCell overlap builder
    Accumulator.addAt overlap.modelCell overlap.area
    return builder) ({} : SparseBuilder α)
  let columns ← sheet.heightSpace
  (← fixedShape sheet.modelExtent columns builder).toOperator

end Sheet

/-- The ice-covered area of each model cell, over several sheets. -/
def coveredAreas (sheets : List (Sheet γ α)) : Except Error (Accumulator α) :=
  sheets.foldlM (fun areas sheet => sheet.accumulateAreas areas) {}

/-- Adds the entries of one sheet's operator to model cells. -/
def addSheet (sheet : Sheet γ α) (state : SparseBuilder α × Accumulator α) :
    Except Error (SparseBuilder α × Accumulator α) := do
  let (operator, areas) ← sheet.heightToModel.whole state.2
  let native ← operator.toNative
  let (_, builder) ← (SparseBuilder.addEntries native).whole state.1
  return (builder, areas)

/-- The operator from height points to model cells over several sheets, each row an
area-weighted average, and the covered area of each model cell. -/
def heightToModel (modelExtent : Int) (heightPoints : Value) (sheets : List (Sheet γ α)) :
    Except Error (DenseOperator α × Accumulator α) := do
  let (builder, areas) ← sheets.foldlM (fun state sheet => addSheet sheet state) ({}, {})
  let columns ← heightPoints.mul (.int modelExtent)
  let builder ← Sheet.fixedShape (.int modelExtent) columns builder
  let operator ← builder.toOperator
  let rowAreas := operator.axes.rows.natives.map fun native =>
    (areas.get? native).getD Scalar.zero
  return (← operator.scaleRows (.ofList (reciprocals rowAreas)), areas)

end Regrid
