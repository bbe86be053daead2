import Regrid.Coupling.Sheet
import Regrid.Store.Archive

/-!
Contract: ice sheets in files.

Owns: the definition and writing of a sheet with its two meshes, mask and
elevations, and the reading of a sheet with new meshes of its own.

Overlaps and classifiers are not stored.
-/

namespace Regrid.Archive

variable {α : Type}

def shortAttribute (value : Value) : Except Error Attribute := do
  return .short (← IntegerType.int32.ofValue value)

/-- Sets the attributes of a sheet one by one, so those before a refused one are set. -/
def annotateSheet {γ : Type} (sheet : Sheet γ α) (info : String) :
    Attempt (Archive α) Unit := do
  if !sheet.name.isBlankOption then annotate true info "name" (.ofValue sheet.name)
  annotate true info "parameterization" (.text (tagText sheet.variant))
  annotate true info "nhp" (← shortAttribute sheet.heightPoints)
  match sheet.modelExtent with
  | .null => pure ()
  | extent => annotate true info "n1" (← shortAttribute extent)

/-- The fields over ice data points that a sheet has: their names, shapes and elements. -/
def sheetFields {γ : Type} (sheet : Sheet γ α) : List (String × List Nat × Column α) :=
  let mask := match sheet.mask with
    | some mask =>
      let items := mask.items.map fun masked => if masked then 1 else 0
      [("mask2", mask.shape, Column.integers .int8 items)]
    | none => []
  let elevation := match sheet.elevation with
    | some elevation => [("elev2", elevation.shape, Column.reals elevation.items)]
    | none => []
  mask ++ elevation

variable [Scalar α]

/-- Defines a sheet with its meshes and then writes all arrays. -/
def writeSheet (sheet : Sheet (Grid α) α) (group : String) : Attempt (Archive α) Unit := do
  define (Schema.infoVariable group) (.integer .int32) []
  annotateSheet sheet (Schema.infoVariable group)
  let grids := [(group ++ ".grid2", sheet.iceMesh), (group ++ ".exgrid", sheet.exchangeMesh)]
  grids.forM fun (name, grid) => defineGrid grid name
  let dimension := group ++ ".n2"
  let fields := sheetFields sheet
  if !fields.isEmpty then
    makeDimension dimension sheet.iceMesh.fieldLength.toNat
    fields.forM fun (name, _, column) =>
      define (group ++ "." ++ name) column.elementType [dimension]
  grids.forM fun (name, grid) => writeGrid grid name
  fields.forM fun (name, shape, column) => do
    if column.length ≠ 0 then store (group ++ "." ++ name) shape column

/-- A field over ice data points; one without elements is a vector. -/
def fieldShape (var : Variable α) : List Nat :=
  if var.column.length = 0 then [0] else var.shape

/-- The sheet that a file holds under a group name; the file tells the variant. -/
def readSheet (archive : Archive α) (group : String)
    (classifier : Option (HeightClassifier α)) : Except Error (Sheet (Grid α) α) := do
  let info ← match archive.dataset.get? (Schema.infoVariable group) with
    | some info => .ok info
    | none => .error (.sheetAbsent (Schema.infoVariable group))
  let variant : Parameterization ← match info.get? "parameterization" with
    | some stored =>
      GridTables.wrapValue (Error.sheetParameterization group)
        (readTag stored.value fun _ => stored.shownWhole)
    | none => .error (.sheetParameterization group (.keyAbsent (Text.quote "parameterization")))
  let field (name : String) : Option (Variable α) := archive.dataset.get? (group ++ "." ++ name)
  let name ← match info.get? "name" with
    | some stored => keeper.labelOf stored
    | none => pure ""
  let iceMesh ← archive.readGrid (group ++ ".grid2")
  let exchangeMesh ← archive.readGrid (group ++ ".exgrid")
  let modelExtent ← match info.get? "n1" with
    | some stored => do pure (Value.int (← stored.value.toInteger))
    | none => pure .null
  let heightPoints ← match info.get? "nhp" with
    | some stored => stored.value.toInteger
    | none => pure 1
  let mask := (field "mask2").map fun var =>
    Tensor.mk (fieldShape var) (var.column.toReals.map fun x => !Scalar.isZero x)
  let elevation := (field "elev2").map fun var =>
    Tensor.mk (fieldShape var) var.column.toReals
  return { variant, name := .text name, iceMesh, exchangeMesh, modelExtent,
           heightPoints := .int heightPoints, mask, elevation, classifier }

end Regrid.Archive
