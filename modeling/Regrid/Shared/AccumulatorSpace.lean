import Regrid.Shared.Heap
import Regrid.Sparse.Accumulator

/-!
Contract: accumulators that are merged with each other and with themselves.

Owns:
- the heap of accumulators, and every step of one of them;
- merging, which reads each sum when its turn comes.

The source of a merge may be its target. The merge then changes the sums that it reads, and goes on
as long as their number stays what it was.
-/

namespace Regrid

/-- All accumulators. -/
abbrev AccumulatorSpace (α : Type) := Heap (Accumulator α)

namespace AccumulatorSpace

variable {α τ : Type}

def makeAccumulator (accumulator : Accumulator α) :
    Attempt (AccumulatorSpace α) (Ref (Accumulator α)) :=
  .ofFunction fun space => .ok (space.make accumulator)

def onAccumulator (ref : Ref (Accumulator α)) (step : Attempt (Accumulator α) τ) :
    Attempt (AccumulatorSpace α) τ :=
  step.within (fun space => space.get ref) fun accumulator space => space.set ref accumulator

/-- Refuses to go on when an accumulator holds more or fewer sums than it did. -/
def requireSize (ref : Ref (Accumulator α)) (size : Nat) : Attempt (AccumulatorSpace α) Unit := do
  if ((← get).get ref).size ≠ size then throw .sizeChanged

variable [Scalar α]

/-- Adds the sum at a place of the source, as it is now, to the target. -/
def addFrom (target source : Ref (Accumulator α)) (place : Nat) :
    Attempt (AccumulatorSpace α) Unit := do
  match ((← get).get source).sums[place]? with
  | some (index, x) => onAccumulator target (Accumulator.addAt index x)
  | none => return ()

/-- Adds all sums of the source to the target, in their order; those before a refused one stay. -/
def merge (target source : Ref (Accumulator α)) : Attempt (AccumulatorSpace α) Unit := do
  let size := ((← get).get source).size
  (List.range size).forM fun place => do
    addFrom target source place
    requireSize source size

end AccumulatorSpace

end Regrid
