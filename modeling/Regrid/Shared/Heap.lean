import Regrid.Error

/-!
Contract: records that several holders refer to.

Owns:
- typed references and the heap they point into;
- steps that leave a changed state also when they fail.

Does not own: what is kept in a heap.
-/

namespace Regrid

/-- A reference to a record of type `ι`. -/
structure Ref (ι : Type) where
  place : Nat
  deriving Repr, Inhabited

instance {ι : Type} : DecidableEq (Ref ι) := fun first second =>
  decidable_of_iff (first.place = second.place)
    ⟨fun same => by cases first; cases second; simp_all, fun same => by rw [same]⟩

/-- Records in the order in which they were made. -/
structure Heap (ι : Type) where
  records : Array ι := #[]

namespace Heap

variable {ι : Type}

def get [Inhabited ι] (heap : Heap ι) (ref : Ref ι) : ι := heap.records.getD ref.place default

/-- Replaces the record behind a reference; every holder sees the new record. -/
def set (heap : Heap ι) (ref : Ref ι) (record : ι) : Heap ι :=
  ⟨heap.records.setIfInBounds ref.place record⟩

def make (heap : Heap ι) (record : ι) : Ref ι × Heap ι :=
  (⟨heap.records.size⟩, ⟨heap.records.push record⟩)

/-- Makes a new record for every item of a list, in order. -/
def makeAll (heap : Heap ι) : List ι → List (Ref ι) × Heap ι
  | [] => ([], heap)
  | record :: rest =>
    let (ref, heap) := heap.make record
    let (refs, heap) := heap.makeAll rest
    (ref :: refs, heap)

end Heap

/-- A step on a state: an answer or a refusal, and in both cases the state that
the step leaves behind. -/
abbrev Attempt (σ τ : Type) := ExceptT Error (StateM σ) τ

namespace Attempt

variable {σ ρ τ : Type}

/-- The outcome of a step from a state, and the state that it leaves. -/
def outcome (step : Attempt σ τ) (state : σ) : Except Error τ × σ :=
  (ExceptT.run step).run state

/-- A step on a part of the state. -/
def within (part : σ → ρ) (replace : ρ → σ → σ) (step : Attempt ρ τ) : Attempt σ τ :=
  ExceptT.mk fun state =>
    let (answer, changed) := step.outcome (part state)
    (answer, replace changed state)

/-- A step that leaves the state as it was when it fails. -/
def ofFunction (f : σ → Except Error (τ × σ)) : Attempt σ τ :=
  ExceptT.mk fun state =>
    match f state with
    | .ok (answer, changed) => (.ok answer, changed)
    | .error reason => (.error reason, state)

/-- The outcome of a step for a caller who keeps the state only if the step succeeds. -/
def whole (step : Attempt σ τ) (state : σ) : Except Error (τ × σ) :=
  match step.outcome state with
  | (.ok answer, changed) => .ok (answer, changed)
  | (.error reason, _) => .error reason

end Attempt

end Regrid
