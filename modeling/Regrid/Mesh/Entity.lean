import Regrid.Value.Sequence

/-!
Contract: the vertex and cell records that meshes are made of.

A cell names its vertices by index, so a cell can be copied freely and a mesh can
lose vertices without leaving a cell attached to a removed record.

An index, a reference and a native address are kept as the caller gave them. A mesh
makes an integer of an index when it inserts the entity.
-/

namespace Regrid

/-- A polygon corner. A vertex whose index is null gets one when it is inserted. -/
structure Vertex (α : Type) where
  x : α
  y : α
  index : Value := .null

/-- A polygon by its vertex indices, with a native address and an area. In an
exchange mesh `i` and `j` are the two cells that overlap. -/
structure Cell (α : Type) where
  vertices : List Value := []
  index : Value := .null
  i : Value := .int (-1)
  j : Value := .int (-1)
  k : Value := .int (-1)
  area : α

variable {α : Type}

def Vertex.point (vertex : Vertex α) : α × α := (vertex.x, vertex.y)

instance [Scalar α] : Inhabited (Vertex α) := ⟨⟨Scalar.zero, Scalar.zero, .null⟩⟩

/-- A cell without vertices, index and address, whose area is not known. -/
def Cell.blank [Scalar α] : Cell α where
  area := Scalar.unknown

instance [Scalar α] : Inhabited (Cell α) := ⟨Cell.blank⟩

def Cell.address (cell : Cell α) : List Value := [cell.i, cell.j, cell.k]

/-- The cell with the vertices that a value names in order; each name becomes an
integer. -/
def Cell.through (cell : Cell α) (vertices : Value) : Except Error (Cell α) := do
  let references ← (← vertices.elements).mapM Value.toInteger
  return { cell with vertices := references.map .int }

/-- An index, which is the next free one where there is none yet. -/
def indexOr (next : Int) : Value → Value
  | .null => .int next
  | index => index

end Regrid
