import Regrid.Proofs.Sparse.Builder

/-!
Contract: how the axes of a builder grow.

Owns:
- growth of an index set, in which every known index keeps its number;
- properties that every step of a builder keeps because all parts of a step do, also when the
  step is refused;
- that each step only grows the axes.

Does not own: what a builder has collected.
-/

namespace Regrid

open Attempt

/-! ### One set -/

namespace IndexSet

/-- A later state of a set has all native indices of an earlier one under their numbers. -/
def Grows (before after : IndexSet) : Prop := before.natives <+: after.natives

theorem Grows.refl (set : IndexSet) : set.Grows set := List.prefix_refl _

theorem Grows.trans {first second third : IndexSet} (earlier : first.Grows second)
    (later : second.Grows third) : first.Grows third :=
  List.IsPrefix.trans earlier later

variable {set changed : IndexSet} {native : Int} {number : Nat}

theorem Grows.getElem? (grows : set.Grows changed) (found : set.natives[number]? = some native) :
    changed.natives[number]? = some native := by
  obtain ⟨more, same⟩ := grows
  rw [← same, List.getElem?_append_left (List.getElem?_eq_some_iff.mp found).1, found]

theorem add_grows (done : set.add native = .ok (number, changed)) : set.Grows changed := by
  obtain ⟨_, _, rfl | ⟨_, _, appended⟩⟩ := add_eq_ok done
  · exact .refl _
  · exact ⟨[native], appended.symm⟩

theorem fixExtent_grows {extent : Int} (done : set.fixExtent extent = .ok changed) :
    set.Grows changed := by
  rw [(lt_of_fixExtent done).1]
  exact List.prefix_refl _

end IndexSet

/-! ### Both axes -/

namespace Axes

/-- A later state of two axes has all native indices of an earlier one under their numbers. -/
structure Grows (before after : Axes) : Prop where
  rows : before.rows.Grows after.rows
  columns : before.columns.Grows after.columns

/-- No axis holds a native index twice. -/
structure Distinct (axes : Axes) : Prop where
  rows : axes.rows.natives.Nodup
  columns : axes.columns.natives.Nodup

variable {axes : Axes} {set : IndexSet}

theorem Grows.refl (axes : Axes) : axes.Grows axes := ⟨.refl _, .refl _⟩

theorem Grows.trans {first second third : Axes} (earlier : first.Grows second)
    (later : second.Grows third) : first.Grows third :=
  ⟨earlier.rows.trans later.rows, earlier.columns.trans later.columns⟩

@[simp]
theorem rows_setRows (axes : Axes) (set : IndexSet) : (axes.setRows set).rows = set := by
  cases axes <;> rfl

@[simp]
theorem columns_setColumns (axes : Axes) (set : IndexSet) :
    (axes.setColumns set).columns = set := by
  cases axes <;> rfl

theorem natives_columns_setRows (same : set.natives = axes.rows.natives) :
    (axes.setRows set).columns.natives = axes.columns.natives := by
  cases axes with
  | separate rows columns => rfl
  | joint both => exact same

theorem natives_rows_setColumns (same : set.natives = axes.columns.natives) :
    (axes.setColumns set).rows.natives = axes.rows.natives := by
  cases axes with
  | separate rows columns => rfl
  | joint both => exact same

/-- When the rows grow, the columns are as before or are the same set. -/
theorem grows_setRows (grows : axes.rows.Grows set) : axes.Grows (axes.setRows set) := by
  cases axes with
  | separate rows columns => exact ⟨grows, .refl _⟩
  | joint both => exact ⟨grows, grows⟩

theorem grows_setColumns (grows : axes.columns.Grows set) : axes.Grows (axes.setColumns set) := by
  cases axes with
  | separate rows columns => exact ⟨.refl _, grows⟩
  | joint both => exact ⟨grows, grows⟩

theorem Distinct.setRows (distinct : axes.Distinct) (own : set.natives.Nodup) :
    (axes.setRows set).Distinct := by
  cases axes with
  | separate rows columns => exact ⟨own, distinct.columns⟩
  | joint both => exact ⟨own, own⟩

theorem Distinct.setColumns (distinct : axes.Distinct) (own : set.natives.Nodup) :
    (axes.setColumns set).Distinct := by
  cases axes with
  | separate rows columns => exact ⟨distinct.rows, own⟩
  | joint both => exact ⟨own, own⟩

end Axes

/-! ### Every step of a builder -/

namespace SparseBuilder

variable {α : Type}

/-- A property of builders that no part of a call disturbs: a row or a column that is taken in, a
value that is appended, an extent that is fixed. -/
structure KeptByParts (invariant : SparseBuilder α → Prop) : Prop where
  addRow : ∀ row, (addRow row).Preserves invariant
  addColumn : ∀ column, (addColumn column).Preserves invariant
  value : ∀ builder x, invariant builder →
    invariant { builder with values := builder.values ++ [x] }
  fixRows : ∀ extent, (fixRows extent).Preserves invariant
  fixColumns : ∀ extent, (fixColumns extent).Preserves invariant

namespace KeptByParts

variable {invariant : SparseBuilder α → Prop} (kept : KeptByParts invariant)

include kept

theorem addAt (row column : Value) (x : α) : (addAt row column x).Preserves invariant :=
  preserves_bind (preserves_lift _) fun r => preserves_bind (kept.addRow r) fun _ =>
    preserves_bind (preserves_lift _) fun c => preserves_bind (kept.addColumn c) fun _ =>
      preserves_modify fun builder => kept.value builder x

theorem addEntries (native : NativeEntries α) : (addEntries native).Preserves invariant :=
  preserves_forM native.entries fun entry _ => preserves_bind (kept.addRow entry.1) fun _ =>
    preserves_bind (kept.addColumn entry.2.1) fun _ =>
      preserves_modify fun builder => kept.value builder entry.2.2

theorem fixShape (rows columns : Value) : (fixShape rows columns).Preserves invariant :=
  preserves_bind (preserves_lift _) fun rows => preserves_bind (kept.fixRows rows) fun _ =>
    preserves_bind (preserves_lift _) fun columns => kept.fixColumns columns

theorem fixShapeOf (shape : Value) : (fixShapeOf shape).Preserves invariant :=
  preserves_bind (preserves_lift _) fun _ => preserves_bind (preserves_lift _) fun rows =>
    preserves_bind (kept.fixRows rows) fun _ => preserves_bind (preserves_lift _) fun _ =>
      preserves_bind (preserves_lift _) fun columns => kept.fixColumns columns

omit kept

theorem addValue {invariant : SparseBuilder Float → Prop} (kept : KeptByParts invariant)
    (row column x : Value) : (addValue row column x).Preserves invariant :=
  preserves_bind (preserves_lift _) fun r => preserves_bind (kept.addRow r) fun _ =>
    preserves_bind (preserves_lift _) fun c => preserves_bind (kept.addColumn c) fun _ =>
      preserves_bind (preserves_lift _) fun x => preserves_modify fun builder =>
        kept.value builder x

theorem extend {invariant : SparseBuilder Float → Prop} (kept : KeptByParts invariant)
    (triples : Value) : (extend triples).Preserves invariant :=
  preserves_bind (preserves_lift _) fun entries => preserves_forM entries fun _ _ =>
    preserves_bind (preserves_lift _) fun triple =>
      kept.addValue triple.1 triple.2.1 triple.2.2

end KeptByParts

/-- Both axes only grow. -/
theorem grows_keptByParts (axes : Axes) :
    KeptByParts fun builder : SparseBuilder α => axes.Grows builder.axes where
  addRow row := preserves_ofFunction fun builder _ changed grows done => by
    obtain ⟨⟨number, set⟩, added, same⟩ := bind_eq_ok done
    cases same
    exact grows.trans (Axes.grows_setRows (IndexSet.add_grows added))
  addColumn column := preserves_ofFunction fun builder _ changed grows done => by
    obtain ⟨⟨number, set⟩, added, same⟩ := bind_eq_ok done
    cases same
    exact grows.trans (Axes.grows_setColumns (IndexSet.add_grows added))
  value builder x grows := grows
  fixRows extent := preserves_ofFunction fun builder _ changed grows done => by
    obtain ⟨set, fixed, same⟩ := bind_eq_ok done
    cases same
    exact grows.trans (Axes.grows_setRows (IndexSet.fixExtent_grows fixed))
  fixColumns extent := preserves_ofFunction fun builder _ changed grows done => by
    obtain ⟨set, fixed, same⟩ := bind_eq_ok done
    cases same
    exact grows.trans (Axes.grows_setColumns (IndexSet.fixExtent_grows fixed))

end SparseBuilder

end Regrid
