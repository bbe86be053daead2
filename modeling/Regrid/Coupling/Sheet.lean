import Regrid.Mesh.Geometry

/-!
Contract: one ice sheet, coupled to a climate model through an exchange mesh.

Owns:
- the sheet: its two meshes, extents, mask, elevations and classifier;
- realization, which checks the inputs and lists the overlaps;
- the height point of a piece of ice.

An exchange cell with address `(i, j)` is the overlap of model cell `i` with ice
cell `j`, and its area is the overlap area. Height points are laid out as
`heightPoint * n1 + i1`, where `n1` is the number of model cells.
-/

namespace Regrid

/-- A weighted piece of the relation between model cells and ice data points, which are
named as the exchange cell names them. -/
structure Overlap (α : Type) where
  modelCell : Value
  icePoint : Value
  area : α
  elevation : α

/-- The height point of ice over a model cell at an elevation. -/
abbrev HeightClassifier (α : Type) := Value → α → Except Error Value

/-- An ice sheet whose meshes are given as `γ`. The parameterization tells the two
variants apart: one value per ice cell, or one value per ice vertex. Of the mask,
true excludes an ice data point. Name, number of model cells and number of height points
are kept as the caller gave them; a null number of model cells is not set. -/
structure Sheet (γ α : Type) where
  variant : Parameterization
  name : Value
  index : Int := -1
  iceMesh : γ
  exchangeMesh : γ
  modelExtent : Value := .null
  heightPoints : Value := .int 1
  mask : Option (Tensor Bool) := none
  elevation : Option (Tensor α) := none
  classifier : Option (HeightClassifier α) := none
  overlaps : Option (List (Overlap α)) := none

namespace Sheet

variable {γ δ α : Type}

def withMeshes (f : γ → δ) (sheet : Sheet γ α) : Sheet δ α :=
  { sheet with iceMesh := f sheet.iceMesh, exchangeMesh := f sheet.exchangeMesh }

/-- The overlaps have been listed. -/
def isRealized (sheet : Sheet γ α) : Bool := sheet.overlaps.isSome

def description (sheet : Sheet γ α) : String :=
  Error.variantName sheet.variant ++ "(name=" ++ sheet.name.shown ++ ", n1=" ++
    sheet.modelExtent.plain ++ ", nhp=" ++ sheet.heightPoints.plain ++ ", " ++
    (if sheet.isRealized then "realized" else "unrealized") ++ ")"

/-- The listed overlaps of a sheet that has been realized. -/
def requireOverlaps (sheet : Sheet γ α) : Except Error (List (Overlap α)) :=
  match sheet.overlaps with
  | some overlaps => .ok overlaps
  | none => .error (.notRealized sheet.name.shown)

/-- The size of height-point space. -/
def heightSpace (sheet : Sheet γ α) : Except Error Value :=
  sheet.heightPoints.mul sheet.modelExtent

/-- The position in height-point space of ice over a model cell. Without a
classifier all ice is in height point zero. -/
def heightIndex (sheet : Sheet γ α) (modelCell : Value) (elevation : α) :
    Except Error Value := do
  let heightPoint ← match sheet.classifier with
    | none => .ok 0
    | some classify => do (← classify modelCell elevation).toInteger
  if 0 ≤ heightPoint then
    if ← (Value.int heightPoint).isBelow sheet.heightPoints then
      return ← (← (Value.int heightPoint).mul sheet.modelExtent).add modelCell
  throw (Error.heightPointOutside heightPoint sheet.heightPoints.plain)

/-- Checks that a field over ice data points, if given, has one item for each. -/
def checkField {β : Type} (sheet : Sheet γ α) (label : String) (field : Option (Tensor β))
    (length : Int) : Except Error Unit :=
  match field with
  | none => .ok ()
  | some array =>
    if array.shape.map Int.ofNat = [length] then .ok ()
    else .error (.wrongShape sheet.name.shown label array.shape length)

/-- An ice data point is excluded by the mask. -/
def isMasked (sheet : Sheet γ α) (icePoint : Value) : Except Error Bool :=
  match sheet.mask with
  | none => .ok false
  | some mask => itemAtValue mask.items icePoint

variable [Scalar α]

/-- The ice cell that an exchange cell lies in and the size of the overlap, whatever the
winding of the polygon. The ice cell is looked up before the model cell is checked. -/
def exchangePart (sheet : Sheet (Grid α) α) (cell : Cell α) : Except Error (Cell α × α) := do
  match ← sheet.iceMesh.cells.member? cell.j with
  | none => throw (.iceCellUnrealized sheet.name.shown cell.index.plain cell.j.plain)
  | some key =>
    if ← (Value.int 0).isAtMost cell.i then
      if ← cell.i.isBelow sheet.modelExtent then
        return (← sheet.iceMesh.cells.get key, Scalar.abs cell.area)
    throw (.modelCellOutside sheet.name.shown cell.index.plain cell.i.plain
      sheet.modelExtent.plain)

def elevationAt (sheet : Sheet γ α) (icePoint : Value) : Except Error α :=
  match sheet.elevation with
  | none => .ok Scalar.unknown
  | some elevation => itemAtValue elevation.items icePoint

/-- The mean elevation of several ice data points. -/
def meanElevation (sheet : Sheet γ α) (icePoints : List Value) : Except Error α :=
  match sheet.elevation with
  | none => .ok Scalar.unknown
  | some elevation => do return mean (← itemsAtValues elevation.items icePoints)

/-- The overlap of an exchange cell with an ice model that has a value per cell. -/
def cellOverlaps (sheet : Sheet (Grid α) α) (cell : Cell α) :
    Except Error (List (Overlap α)) := do
  let (_, area) ← sheet.exchangePart cell
  if ← sheet.isMasked cell.j then return []
  return [⟨cell.i, cell.j, area, ← sheet.elevationAt cell.j⟩]

/-- The overlaps of an exchange cell with an ice model that has a value per vertex:
the area is shared equally among the vertices of the ice cell, at their mean
elevation. The shares of excluded vertices are lost. -/
def vertexOverlaps (sheet : Sheet (Grid α) α) (cell : Cell α) :
    Except Error (List (Overlap α)) := do
  let (iceCell, area) ← sheet.exchangePart cell
  let vertices := iceCell.vertices
  if vertices.isEmpty then return []
  let elevation ← sheet.meanElevation vertices
  let share := area / Scalar.ofInt vertices.length
  let kept ← vertices.filterM fun vertex => do return !(← sheet.isMasked vertex)
  return kept.map fun vertex => ⟨cell.i, vertex, share, elevation⟩

/-- The number of model cells is set and positive. -/
def hasModelCells (sheet : Sheet γ α) : Except Error Bool :=
  match sheet.modelExtent with
  | .null => .ok false
  | extent => do return !(← extent.isAtMost (.int 0))

def check (sheet : Sheet (Grid α) α) : Except Error Unit := do
  if sheet.exchangeMesh.type ≠ .exchange then
    throw (Error.notExchange sheet.name.shown sheet.exchangeMesh.type)
  if sheet.iceMesh.parameterization ≠ sheet.variant then
    throw (Error.wrongParameterization sheet.name.shown sheet.variant
      sheet.iceMesh.parameterization)
  if !(← sheet.hasModelCells) then throw (Error.modelExtentUnset sheet.name.shown)
  if ← sheet.heightPoints.isBelow (.int 1) then
    throw (Error.tooFewHeightPoints sheet.name.shown)
  let length := sheet.iceMesh.fieldLength
  sheet.checkField "mask2" sheet.mask length
  sheet.checkField "elev2" sheet.elevation length

/-- The overlaps of a sheet, exchange cell by exchange cell. -/
def listOverlaps (sheet : Sheet (Grid α) α) : Except Error (List (Overlap α)) := do
  sheet.check
  let parts ← sheet.exchangeMesh.cells.items.mapM (match sheet.variant with
    | .onCells => sheet.cellOverlaps
    | .onVertices => sheet.vertexOverlaps)
  return parts.flatten

end Sheet

end Regrid
