import Regrid.Array.Block
import Regrid.Shared.Heap
import Regrid.Store.Format
import Regrid.Store.GridTables
import Regrid.Store.Name

/-!
Contract: files of named arrays, written in two phases.

Owns:
- files, with dimensions of which some can grow;
- the definition of variables and attributes, and the writing of arrays;
- the definition of a mesh in a file and the writing of its arrays;
- what a file holds when writing is refused half-way.

All meshes of a file are defined before any array is written. An array that was
defined and not written holds fill values. A dimension that is made with size zero grows
as far as any array on it needs.
-/

namespace Regrid

/-- A dimension of a file. -/
structure Dimension where
  name : String
  size : Nat
  grows : Bool := false
  deriving DecidableEq, Repr, Inhabited

/-- A file: its format, its dimensions and its variables, those inside groups by their
paths. -/
structure Archive (α : Type) where
  format : FileFormat := .current
  dimensions : List Dimension := []
  dataset : Dataset α := {}
  nested : Dataset α := {}
  deriving Inhabited

/-- The integer that an unwritten element holds. -/
def IntegerType.fill : IntegerType → Int
  | int8 => -127
  | int32 => -2147483647
  | int64 => -9223372036854775806

/-- The real that an unwritten element holds. -/
def realFill {α : Type} [Scalar α] : α := Scalar.ofInt (15 * Nat.pow 2 119)

/-- The elements of an array that was never written. -/
def ElementType.fill {α : Type} [Scalar α] (count : Nat) : ElementType → Column α
  | .integer type => .integers type (List.replicate count type.fill)
  | .real => .reals (List.replicate count realFill)

namespace Column

variable {α : Type} [Scalar α]

/-- The elements of a block in a shape; a block that neither fits nor can be repeated is
refused. -/
def conform (shape own : List Nat) : Column α → Except Error (Column α)
  | integers type items => do return integers type (← Tensor.conform shape ⟨own, items⟩).items
  | reals items => do return reals (← Tensor.conform shape ⟨own, items⟩).items

/-- The elements of an array of the given shape that holds a block in its leading corner,
what it held before elsewhere, and fill values where it did not reach. -/
def overlay (column : Column α) (own shape : List Nat) (block : Column α)
    (blockShape : List Nat) : Column α :=
  match block, column with
  | integers _ items, integers type known =>
    integers type (Tensor.overlay type.fill shape ⟨blockShape, items⟩ ⟨own, known⟩).items
  | reals items, reals known =>
    reals (Tensor.overlay realFill shape ⟨blockShape, items⟩ ⟨own, known⟩).items
  | _, column => column

end Column

namespace Archive

variable {α : Type}

def dimension? (archive : Archive α) (name : String) : Option Dimension :=
  archive.dimensions.find? fun dimension => dimension.name = name

/-- The dimensions that a variable uses. -/
def dimensionsOf (archive : Archive α) (var : Variable α) : List Dimension :=
  var.dimensions.filterMap archive.dimension?

/-- Changes the variables among which those of a name are: the ones inside groups, or the
others. -/
def changeHeld (name : String) (change : Dataset α → Except Error (Dataset α))
    (archive : Archive α) : Except Error (Archive α) := do
  if StoredName.isNested name then return { archive with nested := ← change archive.nested }
  else return { archive with dataset := ← change archive.dataset }

/-- Makes a dimension under a name that is free. A size of zero lets it grow. -/
def makeDimension (name : String) (size : Nat) : Attempt (Archive α) Unit :=
  .ofFunction fun archive => do
    StoredName.checkBytes name
    match StoredName.ofText? name with
    | none => .error .changeRefused
    | some name =>
      if (archive.dimension? name).isSome then .error .changeRefused
      else
        let made : Dimension := ⟨name, size, size = 0⟩
        .ok ((), { archive with dimensions := archive.dimensions ++ [made] })

/-- A dimension, made unless it is there already. -/
def requireDimension (name : String) (size : Nat) : Attempt (Archive α) Unit := do
  if ((← get).dimension? name).isNone then makeDimension name size

/-- Defines a variable under a path that is free; its array holds fill values. -/
def define [Scalar α] (path : String) (type : ElementType) (dimensions : List String) :
    Attempt (Archive α) Unit :=
  .ofFunction fun archive => do
    StoredName.checkBytes path
    match StoredName.ofPath? (archive.format = .current) path with
    | none => .error .changeRefused
    | some name => do
      let archive ← archive.changeHeld name fun dataset =>
        if (dataset.get? name).isSome then .error .changeRefused
        else
          let dimensions := dimensions.map StoredName.sought
          let shape := dimensions.map fun key =>
            ((archive.dimension? key).map Dimension.size).getD 0
          .ok (dataset.put name ⟨dimensions, shape, type.fill (Tensor.volume shape), []⟩)
      return ((), archive)

/-- An attribute that is one number of the element type of a variable. -/
def isElement (stored : Attribute) : ElementType → Bool
  | .real => match stored.value with
    | .float _ => true
    | _ => false
  | .integer .int32 => match stored.value with
    | .int _ => stored.isShort
    | _ => false
  | .integer .int64 => match stored.value with
    | .int _ => !stored.isShort
    | _ => false
  | .integer .int8 => false

/-- The name of the attribute that replaces the fill value of a variable. -/
def fillKey : String := "_FillValue"

/-- Sets an attribute that a file has made its own. A hierarchical file writes over an
attribute only in the same form, and otherwise puts the new one last. -/
def placeAttribute (format : FileFormat) (key : String) (stored : Attribute)
    (var : Variable α) : Variable α :=
  match var.get? key with
  | some old =>
    if format.isHierarchical ∧ old.form ≠ stored.form then
      { var with attributes := var.attributes.filter (·.1 ≠ key) ++ [(key, stored)] }
    else var.putAttribute key stored
  | none => var.putAttribute key stored

/-- Sets an attribute of a variable. The fill value has to be an element of the variable,
and a hierarchical file takes it only before the array is made. -/
def annotate (isNew : Bool) (path key : String) (given : Attribute) :
    Attempt (Archive α) Unit :=
  .ofFunction fun archive => do
    StoredName.checkBytes key
    let stored ← given.kept archive.format
    let name := StoredName.soughtPath path
    let archive ← archive.changeHeld name fun dataset => dataset.change name fun var =>
      match StoredName.ofText? key with
      | none => .error .attributeRefused
      | some key =>
        if key = fillKey ∧ !((isNew || !archive.format.isHierarchical) &&
            isElement stored var.column.elementType) then .error .attributeRefused
        else .ok (placeAttribute archive.format key stored var)
    return ((), archive)

/-- Sets the attributes of a variable that has just been defined, in their order. -/
def annotateAll (name : String) (attributes : List (String × Attribute)) :
    Attempt (Archive α) Unit :=
  attributes.forM fun (key, given) => annotate true name key given

/-- The shape of the part of an array that data of a given shape is written to. Where a
dimension grows the data decide, and elsewhere the dimension does. -/
def target (dimensions : List Dimension) (shape : List Nat) : Except Error (List Nat) :=
  dimensions.zipIdx.mapM fun (dimension, axis) =>
    if !dimension.grows then .ok dimension.size
    else
      match shape, shape[axis]? with
      | [], _ => .ok (max 1 dimension.size)
      | _, some size => .ok size
      | _, none => .error .positionOutside

/-- The dimensions after those that grow have reached the given sizes. -/
def grown (sizes : List (String × Nat)) (dimension : Dimension) : Dimension :=
  if dimension.grows then
    let wanted := sizes.filter fun entry => entry.1 = dimension.name
    { dimension with size := (wanted.map Prod.snd).foldl max dimension.size }
  else dimension

variable [Scalar α]

/-- A variable whose array covers its dimensions as they are now. -/
def extended (archive : Archive α) (var : Variable α) : Variable α :=
  let shape := (archive.dimensionsOf var).map Dimension.size
  if shape = var.shape then var
  else
    { var with shape, column := var.column.overlay var.shape shape var.column var.shape }

/-- Writes data to a variable. -/
def store (name : String) (shape : List Nat) (data : Column α) : Attempt (Archive α) Unit :=
  .ofFunction fun archive => do
    let name := StoredName.sought name
    let var ← archive.dataset.get name
    let blockShape ← target (archive.dimensionsOf var) shape
    let block ← data.conform blockShape shape
    let grownArchive :=
      { archive with
        dimensions := archive.dimensions.map (grown (var.dimensions.zip blockShape)) }
    let dataset : Dataset α := ⟨archive.dataset.entries.map fun entry =>
      let var := grownArchive.extended entry.2
      if entry.1 = name then
        (entry.1,
          { var with column := var.column.overlay var.shape var.shape block blockShape })
      else (entry.1, var)⟩
    return ((), { grownArchive with dataset })

/-- Writes a dataset to a file that is still empty: all dimensions, and then variable
after variable its attributes and its array. -/
def storeDataset (dataset : Dataset α)
    (pack : Variable α → Column α → Except Error (Column α)) :
    Attempt (Archive α) Unit := do
  dataset.dimensions.forM fun (name, size) => makeDimension name size
  dataset.entries.forM fun (name, var) => do
    define name var.column.elementType var.dimensions
    annotateAll name var.attributes
    if var.column.length ≠ 0 then
      let held ← (← get).dataset.get (StoredName.sought name)
      store name var.shape (← pack held var.column)

/-- Defines the dimensions, variables and attributes of a mesh. Formats other than
the current one cannot hold empty tables. -/
def defineGrid (grid : Grid α) (group : String) : Attempt (Archive α) Unit := do
  grid.validate
  let references := (grid.cells.items.flatMap fun cell => cell.vertices).length
  let format := (← get).format
  if format ≠ .current ∧
      (grid.vertices.size = 0 ∨ grid.cells.size = 0 ∨ references = 0) then
    throw (Error.emptyTables group format.name)
  requireDimension "one" 1
  define (Schema.infoVariable group) (.integer .int32) ["one"]
  annotateAll (Schema.infoVariable group) (← GridTables.infoAttributes grid group)
  makeDimension (Schema.vertexDimension group) grid.vertices.size
  makeDimension (Schema.cellDimension group) grid.cells.size
  makeDimension (Schema.offsetDimension group) (grid.cells.size + 1)
  makeDimension (Schema.referenceDimension group) references
  requireDimension "two" 2
  requireDimension "three" 3
  Schema.parts.forM fun part => do
    define (part.fullName group) part.elementType (part.dimensions group)
    annotate true (part.fullName group) "comment" (Schema.wrapped part.comment)

/-- Writes the arrays of a mesh that was defined. -/
def writeGrid (grid : Grid α) (group : String) : Attempt (Archive α) Unit := do
  let arrays ← GridTables.arrays grid
  arrays.forM fun (part, shape, column) => do
    if column.length ≠ 0 then store (part.fullName group) shape column

/-- Defines all meshes and then writes all of them. -/
def writeGrids (grids : List (String × Grid α)) : Attempt (Archive α) Unit := do
  grids.forM fun (group, grid) => defineGrid grid group
  grids.forM fun (group, grid) => writeGrid grid group

/-- Writes one mesh through a writer that is used a second time, which is refused. -/
def writeTwice (grid : Grid α) (group : String) : Attempt (Archive α) Unit := do
  writeGrids [(group, grid)]
  throw (Error.alreadyWritten group)

/-- A file keeps tables in its own way. -/
def keeper : GridTables.Keeper := ⟨"netCDF file", Attribute.shown, Attribute.label⟩

/-- The mesh that a file holds under a group name. -/
def readGrid (archive : Archive α) (group : String) : Except Error (Grid α) :=
  GridTables.decode keeper archive.dataset group

end Archive

end Regrid
