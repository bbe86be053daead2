import Regrid.Array.Listing
import Regrid.Value.Number

/-!
Contract: lists of values as arrays whose items are of one type.

Owns:
- the type that the items of a list have in common, and the items raised to it;
- a list of one item as the item;
- the elements that are stored for a list of integers of 64 bits.

Does not own: the text of an array.
-/

namespace Regrid

/-- The types of items that an array can hold. `mixed` items have no type in common. -/
inductive ItemType where
  | truth
  | signed
  | unsigned
  | real
  | text
  | mixed
  deriving DecidableEq, Repr

namespace ItemType

/-- The type of one item; an integer belongs to 64 bits, with a sign or without. -/
def ofValue : Value → ItemType
  | .bool _ => truth
  | .int n =>
    if Scalar.leastInt64 ≤ n ∧ n < -Scalar.leastInt64 then signed
    else if 0 ≤ n ∧ n < -2 * Scalar.leastInt64 then unsigned
    else mixed
  | .float _ => real
  | .text _ => text
  | _ => mixed

/-- The least type that holds the items of two types. No integer type holds both signed
and unsigned items, so reals do. -/
def join : ItemType → ItemType → ItemType
  | mixed, _ | _, mixed => mixed
  | text, _ | _, text => text
  | real, _ | _, real => real
  | truth, other | other, truth => other
  | signed, signed => signed
  | unsigned, unsigned => unsigned
  | signed, unsigned | unsigned, signed => real

/-- The type that all items have in common; without items it is real. -/
def common : List Value → ItemType
  | [] => real
  | first :: rest => rest.foldl (fun type item => type.join (ofValue item)) (ofValue first)

/-- An item as one of the type; an item that no conversion reaches stays as it is. -/
def raise (type : ItemType) (item : Value) : Value :=
  match type with
  | truth | mixed => item
  | signed | unsigned => (item.toWhole.toOption.map .int).getD item
  | real => (item.toReal.toOption.map .float).getD item
  | text => .text item.plain

end ItemType

namespace Value

/-- The items of a list as an array of one type; rows that disagree are refused. -/
def toArray (value : Value) : Except Error (Tensor Value) := do
  let tensor ← Tensor.ofValue (fun item => .ok item) value
  return tensor.map (ItemType.common tensor.items).raise

/-- A list whose items are raised to the type they have in common; other values stay. -/
def uniform : Value → Except Error Value
  | list items => do return (← (list items).toArray).toValue id
  | value => .ok value

/-- The items of a list without its nesting; another value is its only item. -/
def leaves (value : Value) : List Value :=
  match Tensor.ofValue (fun item => .ok item) value with
  | .ok tensor => tensor.items
  | .error _ => []

/-- A list of one item stands for the item. -/
def unwrapped (value : Value) : Value :=
  match value with
  | list _ =>
    match value.leaves with
    | [item] => item
    | _ => value
  | _ => value

end Value

end Regrid
