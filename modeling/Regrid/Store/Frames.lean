import Regrid.Mesh.Grid
import Regrid.Store.Dataset

/-!
Contract: the entities of a mesh as the rows of two tables, sorted by key.

Owns:
- the label of a row, which is the index of its entity and has to fit 64 bits;
- the columns of native addresses, whose items are raised to one type where they can be.
-/

namespace Regrid.Frame

variable {α : Type}

/-- A label from a value that has to stand for it without loss. -/
def label (index : Value) : Except Error Int := do
  let n ← IntegerType.int64.fit (← index.toInteger)
  match index with
  | .text s => if s = toString n then return n else throw .wordUnknown
  | .float _ => if index.same (.int n) then return n else throw .wordUnknown
  | _ => return n

/-- The labels of the vertices with the vertices. -/
def vertices (grid : Grid α) : Except Error (List (Int × Vertex α)) :=
  grid.vertices.sortedItems.mapM fun vertex => do return (← label vertex.index, vertex)

def cells (grid : Grid α) : Except Error (List (Int × Cell α)) :=
  grid.cells.sortedItems.mapM fun cell => do return (← label cell.index, cell)

/-- What the items of a column have been seen to be. -/
structure Contents where
  holes : Bool := false
  reals : Bool := false
  truths : Bool := false
  wholes : Bool := false
  negatives : Bool := false
  unsigned : Bool := false
  others : Bool := false

/-- The contents of a column with one more item. An integer that fits no 64 bits, or that
has a sign where another one leaves no room for it, belongs to the others. -/
def Contents.see (contents : Contents) (item : Value) : Except Error Contents := do
  if contents.others then return contents
  match item with
  | .null => return { contents with holes := true }
  | .bool _ => return { contents with truths := true }
  | .float _ => return { contents with reals := true }
  | .int n =>
    let _ ← realOfInt n
    if contents.holes then return { contents with wholes := true }
    let type := ItemType.ofValue item
    let negatives := contents.negatives || (type == .signed && n < 0)
    let unsigned := contents.unsigned || type == .unsigned
    return { contents with
      wholes := true, negatives, unsigned
      others := type == .mixed || (negatives && unsigned) }
  | _ => return { contents with others := true }

/-- A number or a hole as a real. -/
def real : Value → Value
  | .null => .float (0.0 / 0.0)
  | .int n => .float (Float.ofInt n)
  | item => item

/-- A column of a table. Numbers become reals as soon as one of them is a real or one is
missing; items of which some are no numbers stay as they are. -/
def column (items : List Value) : Except Error (List Value) := do
  let contents ← items.foldlM Contents.see {}
  let numbers := contents.reals || contents.wholes
  if contents.others || contents.truths || !numbers then return items
  else if contents.reals || contents.holes then return items.map real
  else return items

end Regrid.Frame
