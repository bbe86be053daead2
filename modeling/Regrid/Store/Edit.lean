import Regrid.Store.Packing

/-!
Contract: edits of stored arrays and of files.

Owns:
- columns of a given element type from values;
- replacement of an array, and of one element by its position;
- changes to the attributes and names of the variables of a file.

Every value becomes a double first. A double loses its fraction where an integer is stored,
and keeps its lowest bits if it fits 64.
-/

namespace Regrid

namespace ElementType

def columnOf (reals : List Float) : ElementType → Except Error (Column Float)
  | .integer type => Column.ofValues type (reals.map .float)
  | .real => .ok (.reals reals)

end ElementType

namespace Column

def setElement (index : Nat) (x : Float) (column : Column Float) :
    Except Error (Column Float) := do
  match column with
  | .integers type items => return .integers type (items.set index (← type.ofValue (.float x)))
  | .reals items => return .reals (items.set index x)

end Column

namespace Variable

/-- The names of dimensions that belong to one variable alone. -/
def privateDimensions (name : String) (rank : Nat) : List String :=
  (List.range rank).map fun axis => s!"{name}_{axis}"

/-- The shape that is asked for, for so many elements. One size of minus one is worked out
from the others. -/
def fittedShape (count : Nat) (sizes : List Int) : Except Error (List Nat) :=
  let known := sizes.filter fun size => size ≠ -1
  let product := Tensor.volume (known.map Int.toNat)
  if known.any fun size => size < 0 then .error .shapesDisagree
  else
    match sizes.length - known.length with
    | 0 => if product = count then .ok (sizes.map Int.toNat) else .error .shapesDisagree
    | 1 =>
      if product = 0 ∨ count % product ≠ 0 then .error .shapesDisagree
      else .ok (sizes.map fun size => if size = -1 then count / product else size.toNat)
    | _ => .error .shapesDisagree

/-- A variable of dimensions of its own with a new array, which takes a new shape if one
is given. The attributes are those of the variable that it replaces. -/
def withArray (name : String) (type : ElementType) (data : Value)
    (shape : Option (List Int)) (attributes : List (String × Attribute)) :
    Except Error (Variable Float) := do
  let tensor ← Tensor.ofReals data
  let column ← type.columnOf tensor.items
  let shape ← match shape with
    | some sizes => fittedShape tensor.items.length sizes
    | none => pure tensor.shape
  return { dimensions := privateDimensions name shape.length, shape, column, attributes }

/-- The variable with the element at a position in row-major order replaced. -/
def setElement (position : Int) (value : Value) (var : Variable Float) :
    Except Error (Variable Float) := do
  let x ← value.toReal
  if position < 0 ∨ (var.column.length : Int) ≤ position then throw Error.shapesDisagree
  return { var with column := ← var.column.setElement position.toNat x }

end Variable

namespace Dataset

/-- Replaces the array of a variable, which is made if it is not there. -/
def replaceArray (name : String) (type : ElementType) (data : Value)
    (shape : Option (List Int)) (dataset : Dataset Float) : Except Error (Dataset Float) := do
  let attributes := ((dataset.get? name).map Variable.attributes).getD []
  return dataset.put name (← Variable.withArray name type data shape attributes)

end Dataset

namespace Archive

/-- Sets an attribute of a variable that has to be present. -/
def setAttribute {α : Type} (name key : String) (value : Value) : Attempt (Archive α) Unit := do
  let _ ← (← get).dataset.get name
  annotate false name key (.ofValue value)

/-- Removes an attribute of a variable; a file refuses when there is no such attribute. -/
def dropAttribute {α : Type} (name key : String) : Attempt (Archive α) Unit :=
  .ofFunction fun archive => do
    StoredName.checkBytes key
    let key := if archive.format.isHierarchical then StoredName.visiblePart key
      else StoredName.sought key
    let dataset ← archive.dataset.change name fun var =>
      (var.dropAttribute key).mapError fun _ => .changeRefused
    return ((), { archive with dataset })

/-- Moves a variable that has to be present to a name that is free. -/
def renameVariable {α : Type} (name target : String) : Attempt (Archive α) Unit :=
  .ofFunction fun archive => do
    let _ ← archive.dataset.get name
    StoredName.checkBytes target
    match StoredName.ofText? target with
    | none => throw Error.changeRefused
    | some target =>
      if (archive.dataset.get? target).isSome then throw Error.changeRefused
      let dataset : Dataset α := ⟨archive.dataset.entries.map fun entry =>
        if entry.1 = name then (target, entry.2) else entry⟩
      return ((), { archive with dataset })

/-- Writes values to a variable that has to be present. -/
def setValues (name : String) (data : Value) : Attempt (Archive Float) Unit := do
  let var ← (← get).dataset.get name
  let tensor ← Tensor.ofReals data
  let column ← var.column.elementType.columnOf tensor.items
  store name tensor.shape (← Packing.packed var column)

end Archive

end Regrid
