import Regrid.Shared.Heap
import Regrid.Sparse.Builder

/-!
Contract: builders and operators that share index sets.

Owns:
- the heap of index sets and builders;
- builders and operators that name the sets of their axes, and both as they are now;
- every step of a builder, whose effect on the sets shows to all their holders.

A builder and the operators made from it hold the same sets, so an operator made
early sees the indices that are added later. Both axes may be one set.
-/

namespace Regrid

/-- The index sets of the rows and of the columns. -/
abbrev AxisRefs := Ref IndexSet × Ref IndexSet

/-- A builder whose axes are shared. -/
structure SharedBuilder (α : Type) where
  axes : AxisRefs
  rows : List Nat := []
  columns : List Nat := []
  values : List α := []
  deriving Inhabited

/-- An operator whose axes are shared. -/
structure SharedOperator (α : Type) where
  matrix : SparseMatrix α
  axes : AxisRefs
  nativeShape : Int × Int

/-- An operator without its axes is attached to shared ones. -/
def DenseOperator.attach {α : Type} (axes : AxisRefs) (operator : DenseOperator α) :
    SharedOperator α :=
  ⟨operator.matrix, axes, operator.nativeShape⟩

/-- All index sets and all builders. -/
structure OperatorSpace (α : Type) where
  sets : Heap IndexSet := {}
  builders : Heap (SharedBuilder α) := {}

namespace OperatorSpace

variable {α τ : Type}

def axes (space : OperatorSpace α) (refs : AxisRefs) : Axes :=
  if refs.1 = refs.2 then .joint (space.sets.get refs.1)
  else .separate (space.sets.get refs.1) (space.sets.get refs.2)

def setAxes (refs : AxisRefs) (axes : Axes) (space : OperatorSpace α) : OperatorSpace α :=
  { space with sets := (space.sets.set refs.1 axes.rows).set refs.2 axes.columns }

def view (space : OperatorSpace α) (operator : SharedOperator α) : DenseOperator α :=
  ⟨operator.matrix, space.axes operator.axes, operator.nativeShape⟩

def viewBuilder (space : OperatorSpace α) (ref : Ref (SharedBuilder α)) : SparseBuilder α :=
  let builder := space.builders.get ref
  ⟨space.axes builder.axes, builder.rows, builder.columns, builder.values⟩

/-- Replaces a builder and the sets behind its axes. -/
def setBuilder (ref : Ref (SharedBuilder α)) (builder : SparseBuilder α)
    (space : OperatorSpace α) : OperatorSpace α :=
  let refs := (space.builders.get ref).axes
  let space := space.setAxes refs builder.axes
  { space with
    builders := space.builders.set ref ⟨refs, builder.rows, builder.columns, builder.values⟩ }

def makeSet (set : IndexSet) : Attempt (OperatorSpace α) (Ref IndexSet) :=
  .ofFunction fun space =>
    let (ref, sets) := space.sets.make set
    .ok (ref, { space with sets })

def onSet (ref : Ref IndexSet) (step : Attempt IndexSet τ) : Attempt (OperatorSpace α) τ :=
  step.within (fun space => space.sets.get ref)
    fun set space => { space with sets := space.sets.set ref set }

def chooseAxes (axes : Option AxisRefs) : Attempt (OperatorSpace α) AxisRefs :=
  match axes with
  | some refs => pure refs
  | none => do return (← makeSet {}, ← makeSet {})

/-- Makes a builder on the given axes, or on two new sets. -/
def makeBuilder (axes : Option AxisRefs) :
    Attempt (OperatorSpace α) (Ref (SharedBuilder α)) := do
  let axes ← chooseAxes axes
  .ofFunction fun space =>
    let (ref, builders) := space.builders.make { axes }
    .ok (ref, { space with builders })

def onBuilder (ref : Ref (SharedBuilder α)) (step : Attempt (SparseBuilder α) τ) :
    Attempt (OperatorSpace α) τ :=
  step.within (fun space => space.viewBuilder ref) (setBuilder ref)

/-- Gives an operator of its own axes two new sets. -/
def adopt (operator : DenseOperator α) : Attempt (OperatorSpace α) (SharedOperator α) := do
  let rows ← makeSet operator.axes.rows
  let columns ← makeSet operator.axes.columns
  return operator.attach (rows, columns)

variable [Scalar α]

/-- The operator of everything that a builder was given, on the builder's axes. -/
def assemble (ref : Ref (SharedBuilder α)) :
    Attempt (OperatorSpace α) (SharedOperator α) := do
  let space ← get
  let operator ← (space.viewBuilder ref).toOperator
  return operator.attach (space.builders.get ref).axes

/-- The operator of a list of triples inside a native shape. Triples before a refused
one stay in the axes. -/
def assembleEntries (axes : Option AxisRefs) (triples shape : Value) :
    Attempt (OperatorSpace Float) (SharedOperator Float) := do
  let ref ← makeBuilder axes
  let operator ← onBuilder ref (operatorOfEntries triples shape)
  return operator.attach ((← get).builders.get ref).axes

end OperatorSpace

end Regrid
