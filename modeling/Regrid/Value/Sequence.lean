import Regrid.Value.Number

/-!
Contract: values as sequences.

Owns:
- the elements of a value in order: the items of a list, the characters of a text, the
  keys of a mapping;
- elements by position, and sequences of a fixed length.
-/

namespace Regrid.Value

/-- The elements of a value in order; a value without elements is refused. -/
def elements : Value → Except Error (List Value)
  | list items => .ok items
  | text s => .ok (s.toList.map fun c => text (String.ofList [c]))
  | map entries => .ok (entries.map (·.1))
  | _ => .error .wrongType

/-- The element at a position; of a mapping, the value under the position as a key. -/
def element (position : Nat) : Value → Except Error Value
  | map entries =>
    match lookupKeyed (int position) entries with
    | some value => .ok value
    | none => .error (.keyAbsent (toString position))
  | value => do
    match (← value.elements)[position]? with
    | some item => return item
    | none => throw .positionOutside

/-- The two elements that a value has to have. -/
def pair (value : Value) : Except Error (Value × Value) := do
  match ← value.elements with
  | [first, second] => return (first, second)
  | _ => throw .shapesDisagree

/-- The three elements that a value has to have. -/
def triple (value : Value) : Except Error (Value × Value × Value) := do
  match ← value.elements with
  | [first, second, third] => return (first, second, third)
  | _ => throw .shapesDisagree

end Regrid.Value
