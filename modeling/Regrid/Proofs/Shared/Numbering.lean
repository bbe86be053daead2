import Regrid.Proofs.Shared.OperatorSpace
import Regrid.Proofs.Sparse.IndexSet

/-!
Contract: runs of calls on index sets and builders that share them.

Owns:
- the calls, and the spaces that runs of them reach, refused calls included;
- that every set and every builder of a reached space is proper.

Does not own: the operators that builders are assembled to.
-/

namespace Regrid.OperatorSpace

open Attempt

variable {α τ : Type}

/-! ### Calls -/

/-- A call on an index set or on a builder, or the making of one. -/
inductive Call (α : Type) where
  | makeSet (extent : Int)
  | addNative (set : Ref IndexSet) (native : Value)
  | addNatives (set : Ref IndexSet) (natives : Value)
  | fixExtent (set : Ref IndexSet) (extent : Int)
  | makeBuilder (axes : Option AxisRefs)
  | add (builder : Ref (SharedBuilder α)) (row column : Value) (x : α)
  | addEntries (builder : Ref (SharedBuilder α)) (native : NativeEntries α)
  | fixShape (builder : Ref (SharedBuilder α)) (rows columns : Value)

/-- What a call does to the space. -/
def Call.perform : Call α → Attempt (OperatorSpace α) Unit
  | makeSet extent => do let _ ← OperatorSpace.makeSet (← IndexSet.create (.int extent))
  | addNative set native => do let _ ← onSet set (IndexSet.addValue native)
  | addNatives set natives => do let _ ← onSet set (IndexSet.addMany natives)
  | fixExtent set extent =>
      onSet set (.ofFunction fun set => do return ((), ← set.fixExtent extent))
  | makeBuilder axes => do let _ ← OperatorSpace.makeBuilder axes
  | add builder row column x => onBuilder builder (SparseBuilder.addAt row column x)
  | addEntries builder native => onBuilder builder (SparseBuilder.addEntries native)
  | fixShape builder rows columns => onBuilder builder (SparseBuilder.fixShape rows columns)

/-- A new builder is handed sets that exist, and calls go to builders that exist. -/
def Call.Admissible (space : OperatorSpace α) : Call α → Prop
  | makeBuilder (some axes) => space.sets.Holds axes.1 ∧ space.sets.Holds axes.2
  | add builder _ _ _ | addEntries builder _ | fixShape builder _ _ =>
      space.builders.Holds builder
  | _ => True

/-- The spaces that calls reach one after the other, whether they are refused or not. -/
inductive Reached : OperatorSpace α → Prop where
  | empty : Reached {}
  | called {space : OperatorSpace α} (reached : Reached space) (call : Call α)
      (admissible : call.Admissible space) : Reached (call.perform.outcome space).2

/-! ### Axes -/

theorem isJoint_axes (space : OperatorSpace α) (refs : AxisRefs) :
    (space.axes refs).isJoint = decide (refs.1 = refs.2) := by
  unfold axes
  split
  next same => exact (decide_eq_true same).symm
  next different => exact (decide_eq_false different).symm

/-- Axes that are put behind two references are found there again, if they are one set exactly
when the references are the same. -/
theorem axes_setAxes {space : OperatorSpace α} {refs : AxisRefs} {axes : Axes}
    (rowsHeld : space.sets.Holds refs.1) (columnsHeld : space.sets.Holds refs.2)
    (kind : axes.isJoint = decide (refs.1 = refs.2)) :
    (space.setAxes refs axes).axes refs = axes := by
  unfold OperatorSpace.axes setAxes
  cases axes with
  | separate rows columns =>
      have different : refs.1 ≠ refs.2 := of_decide_eq_false kind.symm
      have stillHeld : (space.sets.set refs.1 rows).Holds refs.2 := Heap.holds_set.mpr columnsHeld
      have columnsNow := Heap.get_set_same stillHeld columns
      have rowsNow := Heap.get_set_other different (space.sets.set refs.1 rows) columns
      simp only [if_neg different, Axes.rows, Axes.columns, columnsNow, rowsNow,
        Heap.get_set_same rowsHeld]
  | joint both =>
      have same : refs.1 = refs.2 := of_decide_eq_true kind.symm
      have stillHeld : (space.sets.set refs.1 both).Holds refs.2 := Heap.holds_set.mpr columnsHeld
      have bothNow := Heap.get_set_same stillHeld both
      rw [if_pos same]
      exact congrArg Axes.joint (same ▸ bothNow)

/-! ### The invariant -/

/-- The axes of a builder exist. -/
def Placed (sets : Heap IndexSet) (builder : SharedBuilder α) : Prop :=
  sets.Holds builder.axes.1 ∧ sets.Holds builder.axes.2

/-- The row numbers that a builder has recorded stand for indices of its row set. -/
def RowsWithin (sets : Heap IndexSet) (builder : SharedBuilder α) : Prop :=
  ∀ number ∈ builder.rows, number < (sets.get builder.axes.1).natives.length

def ColumnsWithin (sets : Heap IndexSet) (builder : SharedBuilder α) : Prop :=
  ∀ number ∈ builder.columns, number < (sets.get builder.axes.2).natives.length

/-- All sets are proper, and all builders stand on sets that hold what they have recorded. -/
structure Proper (space : OperatorSpace α) : Prop where
  sets : ∀ ref, (space.sets.get ref).Proper
  placed : ∀ ref, space.builders.Holds ref → Placed space.sets (space.builders.get ref)
  rows : ∀ ref, RowsWithin space.sets (space.builders.get ref)
  columns : ∀ ref, ColumnsWithin space.sets (space.builders.get ref)

variable {space : OperatorSpace α}

theorem proper_empty : Proper ({} : OperatorSpace α) := by
  have blankSet : ∀ ref, (({} : OperatorSpace α).sets.get ref).Proper :=
    Heap.forall_get IndexSet.proper_empty nofun
  exact ⟨blankSet, fun _ held => absurd held (Nat.not_lt_zero _), nofun, nofun⟩

/-- Each builder of a proper space is proper on its axes. -/
theorem Proper.viewBuilder (proper : space.Proper) (ref : Ref (SharedBuilder α)) :
    (space.viewBuilder ref).Proper (decide
      ((space.builders.get ref).axes.1 = (space.builders.get ref).axes.2)) where
  joint := isJoint_axes space _
  rowSet := by
    simp only [OperatorSpace.viewBuilder, rows_axes]
    exact proper.sets _
  columnSet := by
    simp only [OperatorSpace.viewBuilder, columns_axes]
    exact proper.sets _
  rows := by
    simp only [OperatorSpace.viewBuilder, rows_axes]
    exact proper.rows ref
  columns := by
    simp only [OperatorSpace.viewBuilder, columns_axes]
    exact proper.columns ref

/-- Sets may grow. -/
theorem Proper.grow (proper : space.Proper) {sets : Heap IndexSet}
    (held : ∀ ref, space.sets.Holds ref → sets.Holds ref)
    (grown : ∀ ref, (sets.get ref).Proper ∧ (space.sets.get ref).Grows (sets.get ref)) :
    Proper { space with sets } where
  sets ref := (grown ref).1
  placed ref builderHeld :=
    ⟨held _ (proper.placed ref builderHeld).1, held _ (proper.placed ref builderHeld).2⟩
  rows ref number member :=
    Nat.lt_of_lt_of_le (proper.rows ref number member) (grown _).2.length_le
  columns ref number member :=
    Nat.lt_of_lt_of_le (proper.columns ref number member) (grown _).2.length_le

theorem Proper.makeSet (proper : space.Proper) {set : IndexSet} (own : set.Proper) :
    Proper { space with sets := (space.sets.make set).2 } := by
  refine proper.grow (fun ref held => held.make set) fun ref => ?_
  refine ⟨Heap.holds_get_make (proper.sets ref) own, ?_⟩
  by_cases held : space.sets.Holds ref
  · rw [Heap.get_make_held held]
    exact .refl _
  · have blank : space.sets.get ref = {} := by
      rw [Heap.get, Array.getD_eq_getD_getElem?, Array.getElem?_eq_none (Nat.le_of_not_lt held)]
      rfl
    rw [blank]
    exact List.nil_prefix

theorem Proper.onSet (proper : space.Proper) (ref : Ref IndexSet) {step : Attempt IndexSet τ}
    (kept : ∀ start, step.Preserves fun set => set.Proper ∧ IndexSet.Grows start set) :
    ((OperatorSpace.onSet ref step).outcome space).2.Proper := by
  have own := kept (space.sets.get ref) (space.sets.get ref) ⟨proper.sets ref, .refl _⟩
  rw [OperatorSpace.onSet, outcome_within]
  refine proper.grow (fun other held => Heap.holds_set.mpr held) fun other => ?_
  refine ⟨Heap.holds_get_set (proper.sets other) fun _ => own.1, Heap.holds_get_set (.refl _) ?_⟩
  rintro rfl
  exact own.2

/-- Sets that grew may be put behind two references. -/
theorem Proper.setAxes (proper : space.Proper) {refs : AxisRefs} {axes : Axes}
    (rowSet : axes.rows.Proper) (columnSet : axes.columns.Proper)
    (rowsGrown : (space.sets.get refs.1).Grows axes.rows)
    (columnsGrown : (space.sets.get refs.2).Grows axes.columns) :
    (space.setAxes refs axes).Proper := by
  refine proper.grow (fun _ held => Heap.holds_set.mpr (Heap.holds_set.mpr held)) fun other => ?_
  refine ⟨Heap.holds_get_set (Heap.holds_get_set (proper.sets other) fun _ => rowSet)
    fun _ => columnSet, Heap.holds_get_set (Heap.holds_get_set (.refl _) ?_) ?_⟩
  · rintro rfl
    exact rowsGrown
  · rintro rfl
    exact columnsGrown

/-- A builder may record other numbers for the same axes, if they stand for indices there. -/
theorem Proper.setBuilder (proper : space.Proper) {ref : Ref (SharedBuilder α)}
    (held : space.builders.Holds ref) {builder : SharedBuilder α}
    (axes : builder.axes = (space.builders.get ref).axes) (rows : RowsWithin space.sets builder)
    (columns : ColumnsWithin space.sets builder) :
    Proper { space with builders := space.builders.set ref builder } where
  sets := proper.sets
  placed other otherHeld := by
    refine Heap.holds_get_set (P := Placed _) (proper.placed other (Heap.holds_set.mp otherHeld))
      fun _ => ?_
    rw [Placed, axes]
    exact proper.placed ref held
  rows other := Heap.holds_get_set (P := RowsWithin _) (proper.rows other) fun _ => rows
  columns other := Heap.holds_get_set (P := ColumnsWithin _) (proper.columns other) fun _ => columns

/-- A call that goes on with a builder by parts leaves a proper space. -/
theorem Proper.onBuilder (proper : space.Proper) {ref : Ref (SharedBuilder α)}
    (held : space.builders.Holds ref) {step : Attempt (SparseBuilder α) τ}
    (kept : ∀ {invariant}, SparseBuilder.KeptByParts invariant → step.Preserves invariant) :
    ((OperatorSpace.onBuilder ref step).outcome space).2.Proper := by
  obtain ⟨rowsHeld, columnsHeld⟩ := proper.placed ref held
  have own := kept (SparseBuilder.proper_keptByParts _) _ (proper.viewBuilder ref)
  have grown := kept (SparseBuilder.grows_keptByParts _) (space.viewBuilder ref) (.refl _)
  rw [OperatorSpace.onBuilder, outcome_within]
  generalize (step.outcome (space.viewBuilder ref)).2 = changed at own grown
  have axesNow := axes_setAxes rowsHeld columnsHeld own.joint
  have rowsNow := (rows_axes _ _).symm.trans (congrArg Axes.rows axesNow)
  have columnsNow := (columns_axes _ _).symm.trans (congrArg Axes.columns axesNow)
  have rowsGrown := grown.rows
  have columnsGrown := grown.columns
  simp only [OperatorSpace.viewBuilder, rows_axes, columns_axes] at rowsGrown columnsGrown
  have between := proper.setAxes own.rowSet own.columnSet rowsGrown columnsGrown
  refine between.setBuilder held rfl (fun number member => ?_) fun number member => ?_
  · exact Nat.lt_of_lt_of_eq (own.rows number member)
      (congrArg (fun set : IndexSet => set.natives.length) rowsNow).symm
  · exact Nat.lt_of_lt_of_eq (own.columns number member)
      (congrArg (fun set : IndexSet => set.natives.length) columnsNow).symm

/-- A new builder has recorded nothing yet. -/
theorem Proper.makeBuilder (proper : space.Proper) {axes : AxisRefs}
    (held : space.sets.Holds axes.1 ∧ space.sets.Holds axes.2) :
    Proper { space with builders := (space.builders.make { axes }).2 } where
  sets := proper.sets
  placed ref builderHeld := by
    by_cases before : space.builders.Holds ref
    · rw [Heap.get_make_held before]
      exact proper.placed ref before
    · have new : ref = (space.builders.make { axes }).1 := by
        obtain ⟨place⟩ := ref
        simp only [Heap.Holds, Heap.make, Array.size_push] at builderHeld before ⊢
        exact congrArg Ref.mk (by omega)
      rw [new, Heap.get_make_new]
      exact held
  rows ref := Heap.holds_get_make (P := RowsWithin _) (proper.rows ref) nofun
  columns ref := Heap.holds_get_make (P := ColumnsWithin _) (proper.columns ref) nofun

/-! ### Runs -/

/-- Each call leaves a proper space, also when it is refused. -/
theorem Proper.perform (proper : space.Proper) (call : Call α)
    (admissible : call.Admissible space) : (call.perform.outcome space).2.Proper := by
  cases call with
  | makeSet extent =>
      rw [Call.perform, outcome_bind, outcome_lift]
      cases made : IndexSet.create (.int extent) with
      | error reason => exact proper
      | ok set => exact proper.makeSet (IndexSet.proper_create made)
  | addNative set native =>
      exact holds_bind (proper.onSet set (IndexSet.addValue_keeps · native)) fun _ =>
        preserves_pure _
  | addNatives set natives =>
      exact holds_bind (proper.onSet set (IndexSet.addMany_keeps · natives)) fun _ =>
        preserves_pure _
  | fixExtent set extent =>
      refine proper.onSet set fun start => preserves_ofFunction fun set _ changed kept done => ?_
      obtain ⟨fixed, fixedDone, same⟩ := bind_eq_ok done
      cases same
      exact ⟨kept.1.fixExtent fixedDone, kept.2.trans (IndexSet.fixExtent_grows fixedDone)⟩
  | makeBuilder axes =>
      cases axes with
      | some axes => exact proper.makeBuilder admissible
      | none =>
          have first := proper.makeSet IndexSet.proper_empty
          have second := first.makeSet IndexSet.proper_empty
          exact second.makeBuilder ⟨(Heap.holds_make _ _).make _, Heap.holds_make _ _⟩
  | add builder row column x =>
      exact proper.onBuilder admissible fun kept => kept.addAt row column x
  | addEntries builder native =>
      exact proper.onBuilder admissible fun kept => kept.addEntries native
  | fixShape builder rows columns =>
      exact proper.onBuilder admissible fun kept => kept.fixShape rows columns

/-- Every reached space is proper. -/
theorem Reached.proper (reached : Reached space) : space.Proper := by
  induction reached with
  | empty => exact proper_empty
  | called _ call admissible inductionHypothesis =>
      exact inductionHypothesis.perform call admissible

end Regrid.OperatorSpace
