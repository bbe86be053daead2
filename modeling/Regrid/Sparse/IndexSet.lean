import Regrid.Array.Position
import Regrid.Array.Row
import Regrid.Shared.Heap

/-!
Contract: the numbering of one axis of an operator.

Owns:
- native indices and the dense numbers they get in the order of first sight;
- the extent of the native space, fixed or grown;
- gathering native vectors into dense order and scattering them back.

Does not own: operators.
-/

namespace Regrid

/-- Native indices in the order of their dense numbers. -/
structure IndexSet where
  natives : List Int := []
  fixedExtent : Option Int := none
  deriving Repr, Inhabited

namespace IndexSet

/-- The largest native index, and `-1` without any. -/
def top (set : IndexSet) : Int := set.natives.foldl max (-1)

/-- The size of the native space. -/
def sparseExtent (set : IndexSet) : Int := set.fixedExtent.getD (set.top + 1)

/-- The number of dense positions. -/
def denseExtent (set : IndexSet) : Nat := set.natives.length

def description (set : IndexSet) : String :=
  s!"SparseSet(dense={set.denseExtent}, sparse={set.sparseExtent})"

/-- The dense number of a native index. -/
def dense? (set : IndexSet) (native : Int) : Option Nat :=
  set.natives.findIdx? (· == native)

/-- A native index may be added: it is natural and inside a fixed extent. -/
def admits (set : IndexSet) (native : Int) : Bool :=
  0 ≤ native && match set.fixedExtent with
    | some extent => native < extent
    | none => true

/-- The dense number of a native index, which is the next one on first sight. -/
def add (native : Int) (set : IndexSet) : Except Error (Nat × IndexSet) :=
  match set.dense? native with
  | some dense => .ok (dense, set)
  | none =>
    if set.admits native then
      .ok (set.denseExtent, { set with natives := set.natives ++ [native] })
    else .error (.nativeOutside native (set.fixedExtent.getD (-1)))

/-- Adds a native index that is given as a value. -/
def addValue (native : Value) : Attempt IndexSet Nat :=
  .ofFunction fun set => do set.add (← native.toInteger)

/-- Adds the elements of a value in order; those before a refused one stay. -/
def addMany (natives : Value) : Attempt IndexSet (List Nat) := do
  (← natives.elements).mapM addValue

/-- Fixes the size of the native space so that it covers every index in use. -/
def fixExtent (extent : Int) (set : IndexSet) : Except Error IndexSet :=
  if extent ≤ set.top then .error (.spaceTooSmall extent set.top)
  else .ok { set with fixedExtent := some extent }

/-- An empty set, with a fixed extent unless the extent is negative. -/
def create (extent : Value) : Except Error IndexSet := do
  if ← (Value.int 0).isAtMost extent then
    return { fixedExtent := some (← extent.toInteger) }
  else return {}

/-- The native index of the set that a value equals. -/
def member? (set : IndexSet) (value : Value) : Except Error (Option Int) := do
  return (← value.integerKey?).filter set.natives.contains

/-- A value equals a native index of the set. -/
def contains (set : IndexSet) (value : Value) : Except Error Bool := do
  return (← set.member? value).isSome

/-- The dense number of a native index that has to be in the set. -/
def toDense (set : IndexSet) (native : Int) : Except Error Nat :=
  match set.dense? native with
  | some dense => .ok dense
  | none => .error (.keyAbsent (toString native))

/-- The dense numbers of the native indices that a value lists as an array. -/
def toDenseAll (set : IndexSet) (natives : Value) : Except Error (List Nat) := do
  (← natives.toArray).items.mapM fun native => do set.toDense (← native.toInteger)

/-- The native index at a dense position; negative positions count from the end. -/
def toSparse (set : IndexSet) (dense : Int) : Except Error Int := itemAt set.natives dense

/-- All native indices as a vector of 64-bit integers. -/
def nativeWords (set : IndexSet) : Except Error (List Int) := set.natives.mapM word

/-- The native indices at an array of dense positions, in the same shape. -/
def toSparseArray (set : IndexSet) (positions : Value) : Except Error (Tensor Int) := do
  let natives ← set.nativeWords
  let places ← Tensor.ofWords positions
  return ⟨places.shape, ← itemsAt natives places.items⟩

variable {α : Type}

/-- The length of the first dimension; a single number has none. -/
def leadingSize (array : Tensor α) : Except Error Nat :=
  match array.shape with
  | size :: _ => .ok size
  | [] => .error .positionOutside

/-- Gathers a native vector, or the rows of an array, into dense order. -/
def gather (set : IndexSet) (array : Tensor α) : Except Error (Tensor α) := do
  let length ← leadingSize array
  if (length : Int) < set.sparseExtent then
    throw (Error.vectorTooShort length set.sparseExtent)
  let natives ← set.nativeWords
  let rows := Tensor.cut (Tensor.volume (array.shape.drop 1)) length array.items
  let gathered ← itemsAt rows natives
  return ⟨natives.length :: array.shape.drop 1, gathered.flatten⟩

/-- Scatters a dense vector to native order, with `fill` everywhere else. An array
of more dimensions only counts as a vector if it holds a single item. -/
def spread (fill : α) (set : IndexSet) (array : Tensor α) : Except Error (List α) := do
  let length ← leadingSize array
  if length ≠ set.denseExtent then
    throw (Error.vectorMismatch length set.denseExtent)
  let blank ← filled fill set.sparseExtent
  let natives ← set.nativeWords
  if array.rank = 1 ∨ array.shape.all (· == 1) then write blank (natives.zip array.items)
  else throw Error.shapesDisagree

end IndexSet

end Regrid
