import Regrid.Mesh.Geometry
import Regrid.Mesh.PointOrder
import Regrid.Mesh.Rectilinear
import Regrid.Shared.Heap

/-!
Contract: meshes that share vertices and cells.

Owns:
- the heap of entities and meshes, and the snapshot of a mesh as it is now;
- every operation that changes an entity, with what it leaves behind when it is
  refused half-way.

One entity may sit in several meshes, and in one mesh under several keys, so a
change of an entity shows wherever it sits. An operation that only reads works on
the snapshot.
-/

namespace Regrid

/-- A mesh whose tables refer to shared entities. -/
abbrev SharedGrid (α : Type) := Mesh (Ref (Vertex α)) (Ref (Cell α))

/-- All meshes and all entities. -/
structure MeshSpace (α : Type) where
  vertices : Heap (Vertex α) := {}
  cells : Heap (Cell α) := {}
  grids : Heap (SharedGrid α) := {}

namespace MeshSpace

variable {α : Type} [Scalar α]

/-- The mesh as it is now, with the records of its entities. -/
def snapshot (space : MeshSpace α) (grid : SharedGrid α) : Grid α :=
  grid.map space.vertices.get space.cells.get

/-- The mesh behind a reference as it is now. -/
def view (space : MeshSpace α) (ref : Ref (SharedGrid α)) : Grid α :=
  space.snapshot (space.grids.get ref)

def setVertex (ref : Ref (Vertex α)) (vertex : Vertex α) (space : MeshSpace α) :
    MeshSpace α :=
  { space with vertices := space.vertices.set ref vertex }

def setCell (ref : Ref (Cell α)) (cell : Cell α) (space : MeshSpace α) : MeshSpace α :=
  { space with cells := space.cells.set ref cell }

def setGrid (ref : Ref (SharedGrid α)) (grid : SharedGrid α) (space : MeshSpace α) :
    MeshSpace α :=
  { space with grids := space.grids.set ref grid }

def makeVertex (vertex : Vertex α) : Attempt (MeshSpace α) (Ref (Vertex α)) :=
  .ofFunction fun space =>
    let (ref, vertices) := space.vertices.make vertex
    .ok (ref, { space with vertices })

def makeCell (cell : Cell α) : Attempt (MeshSpace α) (Ref (Cell α)) :=
  .ofFunction fun space =>
    let (ref, cells) := space.cells.make cell
    .ok (ref, { space with cells })

/-- Gives a mesh that holds its entities a place of its own, with new records for
all its entities. -/
def adopt (grid : Grid α) : Attempt (MeshSpace α) (Ref (SharedGrid α)) :=
  .ofFunction fun space =>
    let (vertexRefs, vertices) := space.vertices.makeAll grid.vertices.items
    let (cellRefs, cells) := space.cells.makeAll grid.cells.items
    let shared : SharedGrid α :=
      { name := grid.name
        type := grid.type
        coordinates := grid.coordinates
        parameterization := grid.parameterization
        projection := grid.projection
        vertices := ⟨grid.vertices.keys.zip vertexRefs, grid.vertices.top,
          grid.vertices.fixedExtent⟩
        cells := ⟨grid.cells.keys.zip cellRefs, grid.cells.top, grid.cells.fixedExtent⟩ }
    let (ref, grids) := space.grids.make shared
    .ok (ref, { vertices, cells, grids })

/-- Changes the tables and tags of a mesh, or refuses and changes nothing. -/
def change (ref : Ref (SharedGrid α)) (f : SharedGrid α → Except Error (SharedGrid α)) :
    Attempt (MeshSpace α) Unit :=
  .ofFunction fun space => do return ((), space.setGrid ref (← f (space.grids.get ref)))

/-- Inserts a vertex. A vertex without an index gets the next free one before it is
checked, and keeps it when the mesh refuses it. -/
def addVertex (gridRef : Ref (SharedGrid α)) (ref : Ref (Vertex α)) :
    Attempt (MeshSpace α) Unit := do
  let space ← get
  let grid := space.grids.get gridRef
  let vertex := space.vertices.get ref
  let label := indexOr grid.vertices.nextKey vertex.index
  set (space.setVertex ref { vertex with index := label })
  let index ← label.toInteger
  let inserted ← grid.insertVertex index ref
  modify fun space =>
    (space.setVertex ref { vertex with index := .int index }).setGrid gridRef inserted

/-- Inserts a cell. A cell without an index gets the next free one before it is
checked, and keeps it when the mesh refuses it. -/
def addCell (gridRef : Ref (SharedGrid α)) (ref : Ref (Cell α)) :
    Attempt (MeshSpace α) Unit := do
  let space ← get
  let grid := space.grids.get gridRef
  let cell := space.cells.get ref
  let label := indexOr grid.cells.nextKey cell.index
  set (space.setCell ref { cell with index := label })
  let index ← label.toInteger
  let inserted ← grid.insertCell cell.vertices index ref
  modify fun space =>
    (space.setCell ref { cell with index := .int index }).setGrid gridRef inserted

/-- Adds a new vertex at a point; answers the index it got. -/
def addPoint (gridRef : Ref (SharedGrid α)) (point : α × α) :
    Attempt (MeshSpace α) Value := do
  let ref ← makeVertex ⟨point.1, point.2, .null⟩
  addVertex gridRef ref
  return ((← get).vertices.get ref).index

/-- Adds one new vertex for each point and a cell through them. Vertices that were
added stay when a later point or the cell is refused. -/
def addPolygon (gridRef : Ref (SharedGrid α)) (points : List (α × α)) (cell : Cell α) :
    Attempt (MeshSpace α) (Ref (Cell α)) := do
  let references ← points.mapM (addPoint gridRef)
  let ref ← makeCell { cell with vertices := references }
  addCell gridRef ref
  return ref

/-- Keeps the cells whose index passes a test, and the vertices they refer to. The
extents are fixed first, and stay fixed when the test refuses to answer. -/
def filterCells (gridRef : Ref (SharedGrid α)) (accept : Int → Except Error Bool) :
    Attempt (MeshSpace α) Unit := do
  change gridRef fun grid => .ok grid.freeze
  let space ← get
  change gridRef (Mesh.restrict (fun ref => (space.cells.get ref).vertices) accept)

/-- Sets the area of one cell from the polygon that it has in a mesh. -/
def computeArea (grid : Grid α) (ref : Ref (Cell α)) : Attempt (MeshSpace α) Unit :=
  .ofFunction fun space => do
    let cell := space.cells.get ref
    return ((), space.setCell ref { cell with area := ← grid.polygonArea cell })

/-- Sets the area of every cell from its polygon, in order, up to the first cell
whose polygon is incomplete. Areas leave all polygons as they are, so the polygons of the
mesh before the first change decide. -/
def computeAreas (gridRef : Ref (SharedGrid α)) : Attempt (MeshSpace α) Unit := do
  let space ← get
  let grid := space.view gridRef
  (space.grids.get gridRef).cells.items.forM (computeArea grid)

/-- Renames the references of one cell; a reference without a new name refuses. -/
def renameReferences (names : List (Int × Int)) (ref : Ref (Cell α)) :
    Attempt (MeshSpace α) Unit :=
  .ofFunction fun space => do
    let cell := space.cells.get ref
    let vertices ← cell.vertices.mapM fun reference => do
      match (← reference.integerKey?).bind (List.lookup · names) with
      | some name => return .int name
      | none => throw (.keyAbsent reference.shown)
    return ((), space.setCell ref { cell with vertices })

/-- Numbers the vertices from zero in the order of their points, and renames the
references of the cells accordingly. The names in use before the first change
decide, the last one where a name occurs twice. -/
def sortRenumber (gridRef : Ref (SharedGrid α)) : Attempt (MeshSpace α) Unit := do
  let space ← get
  let grid := space.grids.get gridRef
  let ordered := PointOrder.sort (fun ref => (space.vertices.get ref).point) grid.vertices.items
  let numbered := ordered.zipIdx
  let names := numbered.filterMap fun (ref, number) =>
    (space.vertices.get ref).index.wholeEqual?.map fun index => (index, (number : Int))
  let vertices : Table (Ref (Vertex α)) :=
    { entries := numbered.map fun (ref, number) => ((number : Int), ref)
      top := (ordered.length : Int) - 1
      fixedExtent := grid.vertices.fixedExtent }
  numbered.forM fun (ref, number) => modify fun space =>
    space.setVertex ref { space.vertices.get ref with index := .int number }
  modify fun space => space.setGrid gridRef { grid with vertices }
  grid.cells.items.forM (renameReferences names.reverse)

end MeshSpace

end Regrid
