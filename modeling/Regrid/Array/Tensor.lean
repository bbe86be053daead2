import Regrid.Error

/-!
Contract: rectangular arrays of any number of dimensions.

Owns:
- a shape together with the items in row-major order;
- nested rows, and the rule that only rows of one shape make an array.

Does not own: arithmetic on arrays.
-/

namespace Regrid

/-- A rectangular array; the items are in row-major order. -/
structure Tensor (α : Type) where
  shape : List Nat
  items : List α
  deriving Repr

/-- An item, or rows of further items. -/
inductive Nested (α : Type) where
  | item (x : α)
  | rows (parts : List (Nested α))
  deriving Repr, Inhabited

namespace Tensor

variable {α β : Type}

def ofList (items : List α) : Tensor α := ⟨[items.length], items⟩

/-- The number of items that a shape asks for. -/
def volume (shape : List Nat) : Nat := shape.foldl (· * ·) 1

/-- The number of dimensions. -/
def rank (tensor : Tensor α) : Nat := tensor.shape.length

/-- The array with every item replaced. -/
def map (f : α → β) (tensor : Tensor α) : Tensor β := ⟨tensor.shape, tensor.items.map f⟩

/-- Cuts a list into `count` parts of `width` items each. -/
def cut (width : Nat) : Nat → List α → List (List α)
  | 0, _ => []
  | count + 1, items => items.take width :: cut width count (items.drop width)

def nestedOf : List Nat → List α → Nested α
  | [], [] => .rows []
  | [], x :: _ => .item x
  | size :: shape, items =>
    .rows ((cut (volume shape) size items).map (nestedOf shape))

def nested (tensor : Tensor α) : Nested α := nestedOf tensor.shape tensor.items

end Tensor

namespace Nested

variable {α : Type}

mutual

/-- The array that nested rows form, provided that all rows of a level agree. -/
def tensor? : Nested α → Option (Tensor α)
  | item x => some ⟨[], [x]⟩
  | rows parts => do
    let tensors ← tensors? parts
    match tensors with
    | [] => return ⟨[0], []⟩
    | first :: _ =>
      if tensors.all fun tensor => tensor.shape == first.shape then
        return ⟨tensors.length :: first.shape, tensors.flatMap (·.items)⟩
      else none

def tensors? : List (Nested α) → Option (List (Tensor α))
  | [] => some []
  | part :: rest => do
    let first ← tensor? part
    let others ← tensors? rest
    return first :: others

end

/-- The largest number of dimensions of an array. -/
def mostAxes : Nat := 64

/-- The array that nested rows form; rows that disagree are refused, and so is an array of
too many dimensions. -/
def toTensor (nested : Nested α) : Except Error (Tensor α) :=
  match nested.tensor? with
  | some tensor => if tensor.rank ≤ mostAxes then .ok tensor else .error .shapesDisagree
  | none => .error .shapesDisagree

end Nested

end Regrid
