import Regrid.Array.Position
import Regrid.Shared.Heap
import Regrid.Value.Sequence

/-!
Contract: running sums under native indices.

Owns: sums in the order in which their indices were first seen, merging of
accumulators, and dense vectors of sums.

Adding makes integers of indices. Sums that are given at once keep their indices as they
are, and numbers of one value are one index.
-/

namespace Regrid

/-- Sums with their indices, in the order of first sight. -/
structure Accumulator (α : Type) where
  sums : List (Value × α) := []
  deriving Inhabited

namespace Accumulator

variable {α : Type}

def get? (accumulator : Accumulator α) (index : Int) : Option α :=
  Value.lookupKeyed (.int index) accumulator.sums

/-- The sum at an index that has to be present. -/
def get (accumulator : Accumulator α) (index : Int) : Except Error α :=
  match accumulator.get? index with
  | some sum => .ok sum
  | none => .error (.keyAbsent (toString index))

def contains (accumulator : Accumulator α) (index : Value) : Except Error Bool :=
  if index.isKey then .ok (Value.lookupKeyed index accumulator.sums).isSome
  else .error .wrongType

def size (accumulator : Accumulator α) : Nat := accumulator.sums.length

/-- Sums given at once; of a repeated index the last one counts. -/
def ofList (sums : List (Value × α)) : Except Error (Accumulator α) :=
  if sums.all fun entry => entry.1.isKey then
    .ok ⟨sums.foldl (fun kept entry => Value.putKeyed entry.1 entry.2 kept) []⟩
  else .error .wrongType

/-- A vector of the given length that holds the sums at their indices and `fill`
elsewhere. -/
def toDense (length : Int) (fill : α) (accumulator : Accumulator α) :
    Except Error (List α) := do
  accumulator.sums.foldlM (fun vector (index, x) => writeAt vector index x)
    (← filled fill length)

variable [Scalar α]

/-- Adds a value at an index; a sum starts from zero. -/
def add (index : Int) (x : α) (accumulator : Accumulator α) : Accumulator α :=
  ⟨Value.putKeyed (.int index) ((accumulator.get? index).getD Scalar.zero + x)
    accumulator.sums⟩

/-- Adds a value at an index that is given as a value. -/
def addAt (index : Value) (x : α) : Attempt (Accumulator α) Unit :=
  .ofFunction fun accumulator => do return ((), accumulator.add (← index.toInteger) x)

/-- Adds all sums of an accumulator as it is given, in their order; those before a refused
one stay. -/
def merge (other : Accumulator α) : Attempt (Accumulator α) Unit :=
  other.sums.forM fun (index, x) => addAt index x

end Accumulator

end Regrid
