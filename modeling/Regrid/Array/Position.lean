import Regrid.Value.Number

/-!
Contract: reading and writing vectors by signed positions.

Owns:
- the rule that a negative position counts from the end;
- picking items at positions, and writing entries at positions;
- the lengths of vectors that are too long to be made.

Does not own: index sets, which name positions by native indices.
-/

namespace Regrid

/-- The place that a signed position names in a vector of the given length;
negative positions count from the end. -/
def place (length : Nat) (position : Int) : Except Error Nat :=
  if 0 ≤ position ∧ position < length then .ok position.toNat
  else if position < 0 ∧ -(length : Int) ≤ position then .ok (position + length).toNat
  else .error .positionOutside

variable {α : Type}

def itemAt (items : List α) (position : Int) : Except Error α := do
  let index ← place items.length position
  match items[index]? with
  | some x => .ok x
  | none => .error .positionOutside

/-- The item at a position that is given as a value; only an integer names one. -/
def itemAtValue (items : List α) : Value → Except Error α
  | .int position => itemAt items position
  | _ => .error .positionOutside

/-- The items at positions that are given as values, in the order of the positions. -/
def itemsAtValues (items : List α) (positions : List Value) : Except Error (List α) :=
  positions.mapM (itemAtValue items)

/-- The items at signed positions, in the order of the positions. -/
def itemsAt (items : List α) (positions : List Int) : Except Error (List α) :=
  positions.mapM (itemAt items)

/-- Writes entries at signed positions, later ones over earlier ones. -/
def write (items : List α) : List (Int × α) → Except Error (List α)
  | [] => .ok items
  | (position, x) :: rest => do
    let index ← place items.length position
    write (items.set index x) rest

/-- Writes an item at a position that is given as a value. An integer names a position;
an absent one and the true one name all positions, the false one names none, and nothing
else names any. -/
def writeAt (vector : List α) (position : Value) (x : α) : Except Error (List α) :=
  match position with
  | .int index =>
    if -Scalar.leastInt64 ≤ index ∧ index < -2 * Scalar.leastInt64 then .error .numberTooLarge
    else write vector [(index, x)]
  | .null | .bool true => .ok (vector.map fun _ => x)
  | .bool false => .ok vector
  | _ => .error .positionOutside

/-- The number of items from which on no vector of eight bytes per item can be named. -/
def unnameableLength : Int := 0x1000000000000000

/-- The number of items from which on a vector of eight bytes per item finds no room. -/
def unaffordableLength : Int := 0x1000000000

/-- Checks that a vector of the given length can be made. -/
def checkLength (length : Int) : Except Error Unit :=
  if length < 0 ∨ unnameableLength ≤ length then .error .shapesDisagree
  else if unaffordableLength ≤ length then .error .memoryExhausted
  else .ok ()

/-- A vector of the given length that holds `fill` everywhere. -/
def filled (fill : α) (length : Int) : Except Error (List α) := do
  checkLength length
  return List.replicate length.toNat fill

end Regrid
