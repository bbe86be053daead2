import Regrid.Array.Tensor

/-!
Contract: arrays that are brought into a shape, and blocks that are written into arrays.

Owns:
- the coordinates of an item, and its place in row-major order;
- repetition of an array along the dimensions that it lacks;
- the leading corner of an array, with room made for it.

Does not own: dimensions that have names.
-/

namespace Regrid.Tensor

variable {α : Type}

/-- The coordinates of the item at a place in row-major order. -/
def coordinates : List Nat → Nat → List Nat
  | [], _ => []
  | _ :: shape, place =>
    place / volume shape :: coordinates shape (place % volume shape)

/-- The place in row-major order of the item with the given coordinates. -/
def placeOf : List Nat → List Nat → Nat
  | _ :: shape, coordinate :: rest => coordinate * volume shape + placeOf shape rest
  | _, _ => 0

def isInside (shape coordinates : List Nat) : Bool :=
  (coordinates.zip shape).all fun entry => entry.1 < entry.2

/-- The items at all places of a shape. -/
def tabulate (shape : List Nat) (item : List Nat → Option α) : Tensor α :=
  ⟨shape, (List.range (volume shape)).filterMap fun place => item (coordinates shape place)⟩

/-- The array in a shape, repeated along the dimensions that it lacks and along those in
which it holds a single item. Any other disagreement is refused. -/
def broadcast (shape : List Nat) (array : Tensor α) : Except Error (Tensor α) :=
  let own := List.replicate (shape.length - array.rank) 1 ++ array.shape
  if own.length = shape.length ∧
      (own.zip shape).all fun entry => entry.1 = 1 || entry.1 = entry.2 then
    let items := array.items.toArray
    .ok (tabulate shape fun coordinates =>
      items[placeOf own (coordinates.zipWith (fun c size => if size = 1 then 0 else c) own)]?)
  else .error .shapesDisagree

/-- The array in a shape. Dimensions of a single item may be put in or left out, and an
array that disagrees otherwise is repeated if it can be. -/
def conform (shape : List Nat) (array : Tensor α) : Except Error (Tensor α) :=
  if array.shape.filter (· ≠ 1) = shape.filter (· ≠ 1) then .ok ⟨shape, array.items⟩
  else array.broadcast shape

/-- The array of the given shape that holds the block in its leading corner, what the
array held before elsewhere, and `fill` where the array did not reach. -/
def overlay (fill : α) (shape : List Nat) (block array : Tensor α) : Tensor α :=
  if block.shape = shape then block
  else
    let inner := block.items.toArray
    let outer := array.items.toArray
    tabulate shape fun coordinates =>
      if isInside block.shape coordinates then inner[placeOf block.shape coordinates]?
      else if isInside array.shape coordinates then outer[placeOf array.shape coordinates]?
      else some fill

end Regrid.Tensor
