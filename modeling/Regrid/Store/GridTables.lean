import Regrid.Array.Text
import Regrid.Mesh.Grid
import Regrid.Store.Schema

/-!
Contract: meshes as named arrays, and back.

Owns:
- the arrays and attributes of a mesh, with entities sorted by index;
- the reading of a mesh from a dataset, with every reason to refuse one.

Reading admits entities through the same checks as insertion, so a mesh that was
read satisfies what a mesh that was built satisfies.
-/

namespace Regrid.GridTables

open Regrid.Schema

variable {α : Type} [Scalar α]

/-- The attributes of a mesh in their order. -/
def infoAttributes (grid : Grid α) (group : String) :
    Except Error (List (String × Attribute)) := do
  let cellExtent ← IntegerType.int32.fit grid.cells.extent
  let vertexExtent ← IntegerType.int32.fit grid.vertices.extent
  let name := if grid.name.isBlankOption then [] else [("name", Attribute.ofValue grid.name)]
  let projection := match grid.coordinates with
    | .xy => InfoKey.projection.entries (.ofValue grid.projection)
    | .lonLat => []
  return [("version", Attribute.short version)] ++ name ++
    InfoKey.type.entries (.text (tagText grid.type)) ++
    InfoKey.coordinates.entries (.text (tagText grid.coordinates)) ++
    InfoKey.parameterization.entries (.text (tagText grid.parameterization)) ++ projection ++
    InfoKey.cellExtent.entries (.short cellExtent) ++
    InfoKey.vertexExtent.entries (.short vertexExtent) ++
    [(vertexDimension group ++ ".comment", wrapped realizedComment)]

/-- The start of each part in a concatenation, and its total length at the end. -/
def offsetsFrom (start : Int) : List Nat → List Int
  | [] => [start]
  | length :: rest => start :: offsetsFrom (start + length) rest

/-- One array of a mesh: its shape and elements. -/
def part (grid : Grid α) (part : Part) : Except Error (List Nat × Column α) :=
  let vertices := grid.vertices.sortedItems
  let cells := grid.cells.sortedItems
  let words (items : List Value) : Except Error (Column α) := Column.ofValues .int32 items
  match part with
  | .vertexIndex => do
    return ([vertices.length], ← words (vertices.map fun vertex => vertex.index))
  | .vertexPoints =>
    .ok ([vertices.length, 2], .reals (vertices.flatMap fun vertex => [vertex.x, vertex.y]))
  | .cellIndex => do return ([cells.length], ← words (cells.map fun cell => cell.index))
  | .cellAddress => do return ([cells.length, 3], ← words (cells.flatMap Cell.address))
  | .cellArea => .ok ([cells.length], .reals (cells.map fun cell => cell.area))
  | .references =>
    let references := cells.flatMap fun cell => cell.vertices
    do return ([references.length], ← words references)
  | .offsets => do
    return ([cells.length + 1],
      ← words ((offsetsFrom 0 (cells.map fun cell => cell.vertices.length)).map .int))

/-- The arrays of a mesh with their names. The references and their offsets are made
first, so they are the first to be refused. -/
def arrays (grid : Grid α) : Except Error (List (Part × List Nat × Column α)) := do
  let references ← part grid .references
  let offsets ← part grid .offsets
  let others ← [Part.vertexIndex, .vertexPoints, .cellIndex, .cellAddress, .cellArea].mapM
    fun name => do return (name, ← part grid name)
  return others ++ [(.references, references), (.offsets, offsets)]

/-- A mesh as a dataset. -/
def encode (grid : Grid α) (group : String) : Except Error (Dataset α) := do
  grid.validate
  let arrays ← arrays grid
  let attributes ← infoAttributes grid group
  let info : Variable α := ⟨["one"], [1], .integers .int32 [0], attributes⟩
  return ⟨(infoVariable group, info) :: arrays.map fun (name, shape, column) =>
    (name.fullName group,
      ⟨name.dimensions group, shape, column, [("comment", wrapped name.comment)]⟩)⟩

/-- A kind of place that keeps tables: its name in messages, the text by which messages
quote an attribute found there, and the text of an attribute that is a name. -/
structure Keeper where
  name : String
  shown : Attribute → String
  label : Attribute → String

/-- A dataset keeps values as they are, and shows rows as such in names. -/
def Keeper.dataset : Keeper :=
  ⟨"dataset", fun stored => stored.value.shown,
    fun stored => if stored.isRow then stored.value.rowText else stored.value.plain⟩

/-- The text of an attribute that is a name, unless it is an integer of too many digits. -/
def Keeper.labelOf (keeper : Keeper) (stored : Attribute) : Except Error String := do
  let _ ← stored.value.writable
  return keeper.label stored

/-- A variable of a dataset that is kept in the given place. -/
def fetch (keeper : Keeper) (dataset : Dataset α) (name : String) :
    Except Error (Variable α) :=
  match dataset.get? name with
  | some var => .ok var
  | none => .error (.variableAbsent name keeper.name)

/-- An attribute that has to be present. -/
def infoValue (group : String) (info : Variable α) (key : String) : Except Error Attribute :=
  match info.get? key with
  | some stored => .ok stored.unwrapped
  | none => .error (.attributeAbsent group key)

/-- A tag among the attributes; the keeper quotes one that is no tag. -/
def infoTag {τ : Type} [TagFamily τ] (keeper : Keeper) (group : String) (info : Variable α)
    (key : InfoKey) : Except Error τ := do
  let stored ← infoValue group info key.name
  readTag stored.value fun _ => keeper.shown stored

def infoInteger (group : String) (info : Variable α) (key : String) : Except Error Int := do
  (← infoValue group info key).value.toInteger

def vector (keeper : Keeper) (dataset : Dataset α) (name : String) :
    Except Error (Column α) := do
  let var ← fetch keeper dataset name
  if var.shape.length = 1 then return var.column
  else throw (Error.notOneDimensional name var.shape)

/-- An array of a dataset with a fixed number of columns, as the number of its rows
and its elements. An array without elements has no rows. -/
def columns (count : Nat) (keeper : Keeper) (dataset : Dataset α) (name : String) :
    Except Error (Nat × Column α) := do
  let var ← fetch keeper dataset name
  if var.column.length = 0 then return (0, var.column)
  else
    match var.shape with
    | [rows, width] =>
      if width = count then return (rows, var.column)
      else throw (Error.notColumns name count var.shape)
    | shape => throw (Error.notColumns name count shape)

/-- Replaces the reason of a refused value by one that names the place. -/
def wrapValue {τ : Type} (wrap : Error → Error) : Except Error τ → Except Error τ
  | .ok answer => .ok answer
  | .error reason =>
    if reason.kind = .value then .error (wrap reason) else .error reason

/-- What the attributes say about a mesh. -/
structure Info where
  type : GridType
  coordinates : Coordinates
  parameterization : Parameterization
  cellExtent : Int
  vertexExtent : Int

def readInfo (keeper : Keeper) (group : String) (info : Variable α) : Except Error Info := do
  let type ← infoTag keeper group info .type
  let coordinates ← infoTag keeper group info .coordinates
  let parameterization ← infoTag keeper group info .parameterization
  let cellExtent ← infoInteger group info InfoKey.cellExtent.name
  let vertexExtent ← infoInteger group info InfoKey.vertexExtent.name
  return ⟨type, coordinates, parameterization, cellExtent, vertexExtent⟩

/-- The differences of neighbouring 64-bit integers, which wrap around. -/
def differences : List Int → List Int
  | [] => []
  | [_] => []
  | first :: second :: rest =>
    (second - first).bmod 0x10000000000000000 :: differences (second :: rest)

/-- The offsets start at zero, never fall, and end at the number of references. -/
def offsetsFit (cellCount referenceCount : Nat) (offsets : List Int) : Bool :=
  offsets.length == cellCount + 1 && offsets.head? == some 0 &&
    offsets.getLast? == some (referenceCount : Int) &&
    (differences offsets).all fun step => 0 ≤ step

/-- A bound of a slice inside a list; negative bounds count from the end, and every
bound is moved into the list. -/
def sliceBound (length : Nat) (bound : Int) : Nat :=
  if bound < 0 then (bound + length).toNat else min bound.toNat length

/-- The items between two bounds. -/
def slice {β : Type} (items : List β) (start stop : Int) : List β :=
  let first := sliceBound items.length start
  (items.take (sliceBound items.length stop)).drop first

/-- Cuts the references into one list per cell. -/
def referenceLists (references : List Int) : List Int → List (List Int)
  | start :: stop :: rest =>
    slice references start stop :: referenceLists references (stop :: rest)
  | _ => []

def pairs {β : Type} : List β → List (β × β)
  | x :: y :: rest => (x, y) :: pairs rest
  | _ => []

def triples {β : Type} : List β → List (β × β × β)
  | x :: y :: z :: rest => (x, y, z) :: triples rest
  | _ => []

/-- Inserts the stored vertices in their order. -/
def readVertices (keeper : Keeper) (group : String) (dataset : Dataset α) (grid : Grid α) :
    Except Error (Grid α) := do
  let index ← vector keeper dataset (Part.vertexIndex.fullName group)
  let (rows, points) ← columns 2 keeper dataset (Part.vertexPoints.fullName group)
  if rows ≠ index.length then throw (Error.coordinateCount group index.length rows)
  wrapValue (Error.verticesMalformed group) <|
    (index.toIntegers.zip (pairs points.toReals)).foldlM
      (fun (grid : Grid α) (index, x, y) =>
        grid.insertVertex index ⟨x, y, .int index⟩) grid

/-- Inserts the stored cells in their order and fixes the extents. -/
def readCells (keeper : Keeper) (group : String) (dataset : Dataset α) (info : Info)
    (grid : Grid α) : Except Error (Grid α) := do
  let index ← vector keeper dataset (Part.cellIndex.fullName group)
  let (rows, addresses) ← columns 3 keeper dataset (Part.cellAddress.fullName group)
  let areas ← vector keeper dataset (Part.cellArea.fullName group)
  let references ← vector keeper dataset (Part.references.fullName group)
  let offsets ← vector keeper dataset (Part.offsets.fullName group)
  if rows ≠ index.length ∨ areas.length ≠ index.length then
    throw (Error.cellTableLengths group)
  if !offsetsFit index.length references.length offsets.toIntegers then
    throw (Error.offsetsMalformed group)
  let lists := referenceLists references.toIntegers offsets.toIntegers
  let cells := index.toIntegers.zip
    ((triples addresses.toIntegers).zip (areas.toReals.zip lists))
  wrapValue (Error.cellsMalformed group) do
    let grid ← cells.foldlM (fun (grid : Grid α) (index, (i, j, k), area, references) =>
      let references := references.map Value.int
      grid.insertCell references index
        ⟨references, .int index, .int i, .int j, .int k, area⟩) grid
    let grid ← grid.fixExtent .cell (.int info.cellExtent)
    grid.fixExtent .vertex (.int info.vertexExtent)

/-- The mesh that a dataset holds under a group name. -/
def decode (keeper : Keeper) (dataset : Dataset α) (group : String) :
    Except Error (Grid α) := do
  let info ← fetch keeper dataset (infoVariable group)
  let stored ← infoInteger group info "version"
  if version < stored then throw (Error.versionTooNew group stored version)
  let tags ← wrapValue (Error.infoMalformed group) (readInfo keeper group info)
  let projection ← match tags.coordinates with
    | .xy => do (← infoValue group info InfoKey.projection.name).value.writable
    | .lonLat => pure ""
  let name ← match info.get? "name" with
    | some stored => keeper.labelOf stored
    | none => pure ""
  let grid ← Mesh.create (.text name) tags.type tags.coordinates tags.parameterization
    (.text projection)
  readCells keeper group dataset tags (← readVertices keeper group dataset grid)

end Regrid.GridTables
