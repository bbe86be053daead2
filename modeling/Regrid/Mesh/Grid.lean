import Regrid.Mesh.Entity
import Regrid.Mesh.Table
import Regrid.Value.Tag

/-!
Contract: polygonal meshes.

Owns:
- the tags of a mesh and their consistency with the projection text;
- insertion of vertices and cells, extents, and restriction to some cells;
- the one-line description of a mesh.

A mesh is written for any kind of entry, so that the same operations serve a mesh
that holds its entities and a mesh that shares them with other meshes. Only the
second kind knows more about entities than their keys and references.
-/

namespace Regrid

/-- A mesh whose tables hold `ν` for vertices and `κ` for cells. Name and projection are
kept as the caller gave them; the projection is present exactly for planar coordinates. -/
structure Mesh (ν κ : Type) where
  name : Value := .text ""
  type : GridType := .generic
  coordinates : Coordinates := .lonLat
  parameterization : Parameterization := .onCells
  projection : Value := .text ""
  vertices : Table ν := {}
  cells : Table κ := {}
  deriving Inhabited

abbrev Grid (α : Type) := Mesh (Vertex α) (Cell α)

namespace Mesh

variable {ν κ ν' κ' : Type}

/-- Checks that the projection agrees with the coordinates. -/
def validate (mesh : Mesh ν κ) : Except Error Unit :=
  match mesh.coordinates, mesh.projection.isBlankOption with
  | .xy, true => .error (.projectionMissing mesh.name.shown)
  | .lonLat, false => .error (.projectionUnwanted mesh.name.shown)
  | _, _ => .ok ()

/-- An empty mesh with the given tags, provided that they are consistent. -/
def create (name : Value) (type : GridType) (coordinates : Coordinates)
    (parameterization : Parameterization) (projection : Value) :
    Except Error (Mesh ν κ) := do
  let mesh : Mesh ν κ :=
    { name, type, coordinates, parameterization, projection := projection.orEmpty }
  mesh.validate
  return mesh

/-- An empty mesh with tags that are still to be read. -/
def ofTags (name type coordinates parameterization projection : Value) :
    Except Error (Mesh ν κ) := do
  let type ← readTag type
  let coordinates ← readTag coordinates
  let parameterization ← readTag parameterization
  create name type coordinates parameterization projection

/-- Changes coordinates and projection together. -/
def setCoordinates (coordinates projection : Value) (mesh : Mesh ν κ) :
    Except Error (Mesh ν κ) := do
  let coordinates ← readTag coordinates
  let changed := { mesh with coordinates, projection := projection.orEmpty }
  changed.validate
  return changed

/-- Removes all entities and unfixes both extents. -/
def clear (mesh : Mesh ν κ) : Mesh ν κ := { mesh with vertices := .empty, cells := .empty }

/-- The mesh with every entity replaced. -/
def map (f : ν → ν') (g : κ → κ') (mesh : Mesh ν κ) : Mesh ν' κ' where
  name := mesh.name
  type := mesh.type
  coordinates := mesh.coordinates
  parameterization := mesh.parameterization
  projection := mesh.projection
  vertices := mesh.vertices.map f
  cells := mesh.cells.map g

/-- The length of a field on the mesh. -/
def fieldLength (mesh : Mesh ν κ) : Int :=
  match mesh.parameterization with
  | .onVertices => mesh.vertices.extent
  | .onCells => mesh.cells.extent

/-- Fixes the number of cells or vertices of the whole domain. -/
def fixExtent (kind : EntityKind) (extent : Value) (mesh : Mesh ν κ) :
    Except Error (Mesh ν κ) :=
  match kind with
  | .vertex => do return { mesh with vertices := ← mesh.vertices.fixExtent .vertex extent }
  | .cell => do return { mesh with cells := ← mesh.cells.fixExtent .cell extent }

/-- Inserts a vertex under an index. -/
def insertVertex (index : Int) (vertex : ν) (mesh : Mesh ν κ) : Except Error (Mesh ν κ) := do
  mesh.vertices.checkKey .vertex index
  return { mesh with vertices := mesh.vertices.push index vertex }

/-- The first reference that names no vertex. -/
def dangling? (mesh : Mesh ν κ) : List Value → Except Error (Option Value)
  | [] => .ok none
  | reference :: rest => do
    match ← mesh.vertices.member? reference with
    | some _ => mesh.dangling? rest
    | none => return some reference

/-- Inserts a cell with the given vertex references under an index. -/
def insertCell (references : List Value) (index : Int) (cell : κ) (mesh : Mesh ν κ) :
    Except Error (Mesh ν κ) := do
  mesh.cells.checkKey .cell index
  match ← mesh.dangling? references with
  | some reference => .error (.danglingReference index reference.plain)
  | none => return { mesh with cells := mesh.cells.push index cell }

/-- Fixes both extents at what they are. -/
def freeze (mesh : Mesh ν κ) : Mesh ν κ :=
  { mesh with vertices := mesh.vertices.freeze, cells := mesh.cells.freeze }

/-- Keeps the cells under the given keys and the vertices that are needed. -/
def keep (keys needed : List Int) (mesh : Mesh ν κ) : Mesh ν κ :=
  { mesh with
    vertices := mesh.vertices.restrict needed.contains
    cells := mesh.cells.restrict keys.contains }

/-- Keeps the cells that a test accepts and the vertices that they refer to. The cells
are asked in their order, and each accepted one names its vertices at once. -/
def restrict (references : κ → List Value) (accept : Int → Except Error Bool)
    (mesh : Mesh ν κ) : Except Error (Mesh ν κ) := do
  let kept ← mesh.cells.entries.filterMapM fun (key, cell) => do
    if ← accept key then
      return some (key, ← (references cell).mapM Value.integerKey?)
    else return none
  return mesh.keep (kept.map (·.1)) (kept.flatMap fun entry => entry.2.filterMap id)

/-- The mesh on one line: tags, and how many entities of each kind are realized. -/
def description (mesh : Mesh ν κ) : String :=
  "Grid(name=" ++ mesh.name.shown ++ ", type=" ++ tagText mesh.type ++
    ", coordinates=" ++ tagText mesh.coordinates ++ ", parameterization=" ++
    tagText mesh.parameterization ++ ", cells=" ++ toString mesh.cells.size ++ "/" ++
    toString mesh.cells.extent ++ ", vertices=" ++ toString mesh.vertices.size ++ "/" ++
    toString mesh.vertices.extent ++ ")"

end Mesh

end Regrid
