import Regrid.Proofs.Sparse.Growth
import Regrid.Proofs.Value

/-!
Contract: index sets and builders that only ever hold what was accepted.

Owns:
- the invariant of an index set, and that adding indices and fixing the extent keep it;
- the invariant of a builder, whose recorded numbers are those of indices that its axes hold, and
  that every part of a call keeps it.

Does not own: which builder holds which set.

A refused column leaves a recorded row behind. Its number stands for an index all the same, so the
invariant of a builder says nothing about how many rows, columns and values there are.
-/

namespace Regrid

open Attempt

/-! ### One set -/

/-- The native indices of a set are different, and all of them are natural numbers below the
extent. -/
structure IndexSet.Proper (set : IndexSet) : Prop where
  natural : 0 ≤ set.sparseExtent
  distinct : set.natives.Nodup
  inside : ∀ native ∈ set.natives, 0 ≤ native ∧ native < set.sparseExtent

namespace IndexSet

variable {set changed : IndexSet} {native : Int} {number : Nat}

theorem proper_empty : Proper {} := ⟨by decide, List.nodup_nil, nofun⟩

theorem create_int (extent : Int) : create (.int extent) =
    .ok (if 0 ≤ extent then { fixedExtent := some extent } else {}) := by
  unfold create
  rw [Value.isAtMost_int]
  by_cases natural : 0 ≤ extent
  · rw [if_pos natural, decide_eq_true natural]
    rfl
  · rw [if_neg natural, decide_eq_false natural]
    rfl

theorem proper_create {extent : Int} (done : create (.int extent) = .ok set) : set.Proper := by
  obtain rfl := Except.ok.inj ((create_int extent).symm.trans done)
  split
  next natural => exact ⟨natural, List.nodup_nil, nofun⟩
  next => exact proper_empty

/-- An index that is added is natural, and lies below the extent if that is fixed. -/
theorem Proper.add (proper : set.Proper) (done : set.add native = .ok (number, changed)) :
    changed.Proper := by
  obtain ⟨_, extent, rfl | ⟨_, admitted, appended⟩⟩ := add_eq_ok done
  · exact proper
  · rw [admits, Bool.and_eq_true] at admitted
    have natural : 0 ≤ native := of_decide_eq_true admitted.1
    cases fixed : set.fixedExtent with
    | some bound =>
        have below : native < bound := by simpa [fixed] using admitted.2
        have before : set.sparseExtent = bound := by rw [sparseExtent, fixed, Option.getD_some]
        have now : changed.sparseExtent = bound := by
          rw [sparseExtent, extent, fixed, Option.getD_some]
        refine ⟨by omega, nodup_add proper.distinct done, fun other member => ?_⟩
        rw [now]
        rw [appended, List.mem_append, List.mem_singleton] at member
        rcases member with earlier | rfl
        · have bounds := proper.inside other earlier
          omega
        · exact ⟨natural, below⟩
    | none =>
        have now : changed.sparseExtent = changed.top + 1 := by
          rw [sparseExtent, extent, fixed, Option.getD_none]
        obtain ⟨least, most⟩ := changed.le_top
        refine ⟨by omega, nodup_add proper.distinct done, fun other member => ?_⟩
        have bound := most other member
        refine ⟨?_, by omega⟩
        rw [appended, List.mem_append, List.mem_singleton] at member
        rcases member with earlier | rfl
        · exact (proper.inside other earlier).1
        · exact natural

theorem Proper.fixExtent (proper : set.Proper) {extent : Int}
    (done : set.fixExtent extent = .ok changed) : changed.Proper := by
  have natural := natural_of_fixExtent done
  obtain ⟨rfl, below⟩ := lt_of_fixExtent done
  exact ⟨natural, proper.distinct, fun native member =>
    ⟨(proper.inside native member).1, below native member⟩⟩

/-- An index that is added, or refused, leaves a grown set that is as good as before. -/
theorem addValue_keeps (start : IndexSet) (native : Value) :
    (addValue native).Preserves fun set => set.Proper ∧ start.Grows set :=
  preserves_ofFunction fun _ _ _ ⟨proper, grows⟩ done => by
    obtain ⟨_, _, added⟩ := bind_eq_ok done
    exact ⟨proper.add added, grows.trans (add_grows added)⟩

theorem addMany_keeps (start : IndexSet) (natives : Value) :
    (addMany natives).Preserves fun set => set.Proper ∧ start.Grows set :=
  preserves_bind (preserves_lift _) fun items => preserves_mapM (addValue_keeps start) items

end IndexSet

/-! ### Builders -/

/-- The same set stands behind both axes. -/
def Axes.isJoint : Axes → Bool
  | separate _ _ => false
  | joint _ => true

namespace SparseBuilder

variable {α : Type} {joint : Bool} {builder : SparseBuilder α}

/-- Both axes of a builder are proper, and each recorded number stands for an index on its axis. -/
structure Proper (joint : Bool) (builder : SparseBuilder α) : Prop where
  joint : builder.axes.isJoint = joint
  rowSet : builder.axes.rows.Proper
  columnSet : builder.axes.columns.Proper
  rows : ∀ number ∈ builder.rows, number < builder.axes.rows.natives.length
  columns : ∀ number ∈ builder.columns, number < builder.axes.columns.natives.length

/-- On grown axes, recorded numbers stand for the same indices. -/
theorem Proper.onAxes (proper : builder.Proper joint) {axes : Axes}
    (grows : builder.axes.Grows axes) (same : axes.isJoint = joint) (rowSet : axes.rows.Proper)
    (columnSet : axes.columns.Proper) : Proper joint { builder with axes } where
  joint := same
  rowSet := rowSet
  columnSet := columnSet
  rows number member := Nat.lt_of_lt_of_le (proper.rows number member) grows.rows.length_le
  columns number member :=
    Nat.lt_of_lt_of_le (proper.columns number member) grows.columns.length_le

theorem Proper.setRows (proper : builder.Proper joint) {set : IndexSet}
    (grows : builder.axes.rows.Grows set) (own : set.Proper) :
    Proper joint { builder with axes := builder.axes.setRows set } := by
  refine proper.onAxes (Axes.grows_setRows grows) ?_ ?_ ?_
  · rw [← proper.joint]
    cases builder.axes <;> rfl
  · rw [Axes.rows_setRows]
    exact own
  · have columnSet := proper.columnSet
    cases kind : builder.axes with
    | separate rows columns =>
        rw [kind] at columnSet
        exact columnSet
    | joint both => exact own

theorem Proper.setColumns (proper : builder.Proper joint) {set : IndexSet}
    (grows : builder.axes.columns.Grows set) (own : set.Proper) :
    Proper joint { builder with axes := builder.axes.setColumns set } := by
  refine proper.onAxes (Axes.grows_setColumns grows) ?_ ?_ ?_
  · rw [← proper.joint]
    cases builder.axes <;> rfl
  · have rowSet := proper.rowSet
    cases kind : builder.axes with
    | separate rows columns =>
        rw [kind] at rowSet
        exact rowSet
    | joint both => exact own
  · rw [Axes.columns_setColumns]
    exact own

theorem proper_keptByParts (joint : Bool) :
    KeptByParts fun builder : SparseBuilder α => builder.Proper joint where
  addRow row := preserves_ofFunction fun builder _ changed proper done => by
    obtain ⟨⟨number, set⟩, added, same⟩ := bind_eq_ok done
    cases same
    have kept := proper.setRows (IndexSet.add_grows added) (proper.rowSet.add added)
    refine { kept with rows := fun other member => ?_ }
    rcases List.mem_append.mp member with earlier | own
    · exact kept.rows other earlier
    · rw [List.mem_singleton.mp own, Axes.rows_setRows]
      exact (List.getElem?_eq_some_iff.mp (IndexSet.add_eq_ok added).1).1
  addColumn column := preserves_ofFunction fun builder _ changed proper done => by
    obtain ⟨⟨number, set⟩, added, same⟩ := bind_eq_ok done
    cases same
    have kept := proper.setColumns (IndexSet.add_grows added) (proper.columnSet.add added)
    refine { kept with columns := fun other member => ?_ }
    rcases List.mem_append.mp member with earlier | own
    · exact kept.columns other earlier
    · rw [List.mem_singleton.mp own, Axes.columns_setColumns]
      exact (List.getElem?_eq_some_iff.mp (IndexSet.add_eq_ok added).1).1
  value builder x proper := { proper with }
  fixRows extent := preserves_ofFunction fun builder _ changed proper done => by
    obtain ⟨set, fixed, same⟩ := bind_eq_ok done
    cases same
    exact proper.setRows (IndexSet.fixExtent_grows fixed) (proper.rowSet.fixExtent fixed)
  fixColumns extent := preserves_ofFunction fun builder _ changed proper done => by
    obtain ⟨set, fixed, same⟩ := bind_eq_ok done
    cases same
    exact proper.setColumns (IndexSet.fixExtent_grows fixed) (proper.columnSet.fixExtent fixed)

end SparseBuilder

end Regrid
