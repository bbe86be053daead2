import Regrid.Array.Position
import Regrid.Mesh.Grid
import Regrid.Polygon

/-!
Contract: the geometry of a mesh that holds its entities.

Owns:
- the polygon of a cell and the location of a data point;
- areas computed from polygons, and the vector of stored areas.

Does not own: areas on a projection, which need one.
-/

namespace Regrid.Mesh

variable {α : Type} [Scalar α]

/-- The polygon of a cell; every reference has to name a vertex. -/
def polygon (grid : Grid α) (cell : Cell α) : Except Error (Polygon α) :=
  cell.vertices.mapM fun reference => do return (← grid.vertices.getAt reference).point

def polygonAt (grid : Grid α) (index : Int) : Except Error (Polygon α) := do
  grid.polygon (← grid.cells.get index)

/-- The location of a data point: a vertex, or the centre of gravity of a cell. -/
def location (grid : Grid α) (index : Int) : Except Error (α × α) :=
  match grid.parameterization with
  | .onVertices => do return (← grid.vertices.get index).point
  | .onCells => do (← grid.polygonAt index).centroid

/-- The area that the polygon of a cell encloses. -/
def polygonArea (grid : Grid α) (cell : Cell α) : Except Error α := do
  return (← grid.polygon cell).area

/-- The mesh with the area of every cell computed from its polygon. -/
def withPolygonAreas (grid : Grid α) : Except Error (Grid α) := do
  let entries ← grid.cells.entries.mapM fun (key, cell) => do
    return (key, { cell with area := ← grid.polygonArea cell })
  return { grid with cells := { grid.cells with entries } }

/-- A vector over all cells of the domain: the value of each realized cell at its
index, and `fill` elsewhere. -/
def cellVector (fill : α) (value : Cell α → Except Error α) (grid : Grid α) :
    Except Error (List α) := do
  grid.cells.items.foldlM (fun vector cell => do
    writeAt vector cell.index (← value cell)) (← filled fill grid.cells.extent)

/-- The stored areas over all cells of the domain. -/
def areaVector (fill : α) (grid : Grid α) : Except Error (List α) :=
  grid.cellVector fill fun cell => .ok cell.area

/-- The areas over all cells of the domain after every vertex has been moved by a map. -/
def mappedAreaVector (fill : α) (f : α × α → α × α) (grid : Grid α) :
    Except Error (List α) :=
  grid.cellVector fill fun cell => do return (← grid.polygon cell).mappedArea f

end Regrid.Mesh
