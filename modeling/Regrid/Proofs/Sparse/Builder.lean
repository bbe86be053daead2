import Mathlib.Data.List.Nodup
import Regrid.Proofs.Attempt
import Regrid.Sparse.Builder

/-!
Contract: what a builder has collected, in native indices.

Owns:
- the numbering of the native indices of one axis;
- that adding an entry or all entries of a list collects exactly these;
- fixing the native shape.

Does not own: the matrix that is assembled.
-/

namespace Regrid

open Attempt

/-! ### One axis -/

namespace IndexSet

variable {set changed : IndexSet} {native : Int} {number : Nat}

theorem not_mem_of_dense? (new : set.dense? native = none) : native ∉ set.natives := by
  intro member
  have unequal := List.findIdx?_eq_none_iff.mp new native member
  rw [beq_self_eq_true] at unequal
  cases unequal

theorem getElem?_of_dense? (known : set.dense? native = some number) :
    set.natives[number]? = some native := by
  obtain ⟨bound, same, _⟩ := List.findIdx?_eq_some_iff_getElem.mp known
  rw [List.getElem?_eq_getElem bound, beq_iff_eq.mp same]

/-- A native index that is added is known already, or takes the next number. -/
theorem add_eq_ok (done : set.add native = .ok (number, changed)) :
    changed.natives[number]? = some native ∧ changed.fixedExtent = set.fixedExtent ∧
      (changed = set ∨ native ∉ set.natives ∧ set.admits native ∧
        changed.natives = set.natives ++ [native]) := by
  unfold IndexSet.add at done
  cases known : set.dense? native with
  | some place =>
      rw [known] at done
      cases done
      exact ⟨getElem?_of_dense? known, rfl, .inl rfl⟩
  | none =>
      rw [known] at done
      simp only [] at done
      split at done
      next admitted =>
        cases done
        refine ⟨?_, rfl, .inr ⟨not_mem_of_dense? known, admitted, rfl⟩⟩
        simp [denseExtent]
      next => cases done

theorem nodup_add (distinct : set.natives.Nodup) (done : set.add native = .ok (number, changed)) :
    changed.natives.Nodup := by
  obtain ⟨_, _, rfl | ⟨new, _, appended⟩⟩ := add_eq_ok done
  · exact distinct
  · rw [appended, List.nodup_append]
    refine ⟨distinct, List.nodup_singleton native, ?_⟩
    rintro known knownMember other otherMember rfl
    exact new (List.mem_singleton.mp otherMember ▸ knownMember)

end IndexSet

/-- Dense numbers stand for native indices in an index set of no fixed extent, which holds no
others and each of them once. All of them are natural. -/
structure IndexSet.Numbers (set : IndexSet) (dense : List Nat) (natives : List Int) : Prop where
  unfixed : set.fixedExtent = none
  natural : ∀ native ∈ set.natives, 0 ≤ native
  distinct : set.natives.Nodup
  listed : ∀ native ∈ set.natives, native ∈ natives
  numbered : List.Forall₂ (fun number native => set.natives[number]? = some native) dense natives

namespace IndexSet

theorem numbers_empty : Numbers {} [] [] := ⟨rfl, by simp, List.nodup_nil, by simp, .nil⟩

variable {set : IndexSet} {dense : List Nat} {natives : List Int}

theorem Numbers.mem_iff (numbers : set.Numbers dense natives) {native : Int} :
    native ∈ set.natives ↔ native ∈ natives := by
  refine ⟨numbers.listed native, fun member => ?_⟩
  obtain ⟨number, _, found⟩ := exists_item_of_mem numbers.numbered member
  exact List.mem_of_getElem? found

/-- An index that is added gets a number of its own on first sight, and earlier numbers stay. -/
theorem Numbers.added (numbers : set.Numbers dense natives) {native : Int} {number : Nat}
    {changed : IndexSet} (done : set.add native = .ok (number, changed)) :
    changed.Numbers (dense ++ [number]) (natives ++ [native]) := by
  obtain ⟨found, extent, grown⟩ := add_eq_ok done
  have last : List.Forall₂ (fun number native => changed.natives[number]? = some native)
      [number] [native] := .cons found .nil
  rcases grown with rfl | ⟨_, admitted, appended⟩
  · exact ⟨numbers.unfixed, numbers.natural, numbers.distinct,
      fun other member => List.mem_append_left _ (numbers.listed other member),
      List.rel_append numbers.numbered last⟩
  · have natural : 0 ≤ native := by
      rw [admits, Bool.and_eq_true] at admitted
      exact of_decide_eq_true admitted.1
    refine ⟨extent.trans numbers.unfixed, fun other member => ?_,
      nodup_add numbers.distinct done, fun other member => ?_,
      List.rel_append (numbers.numbered.imp fun number native earlier => ?_) last⟩
    · rw [appended] at member
      rcases List.mem_append.mp member with earlier | own
      · exact numbers.natural other earlier
      · exact List.mem_singleton.mp own ▸ natural
    · rw [appended] at member
      rcases List.mem_append.mp member with earlier | own
      · exact List.mem_append_left _ (numbers.listed other earlier)
      · exact List.mem_append_right _ own
    · rw [appended]
      exact (List.getElem?_append_left (List.getElem?_eq_some_iff.mp earlier).1).trans earlier

/-- A natural index can be added. -/
theorem Numbers.exists_add (numbers : set.Numbers dense natives) {native : Int}
    (natural : 0 ≤ native) : ∃ number changed, set.add native = .ok (number, changed) := by
  unfold IndexSet.add
  cases set.dense? native with
  | some number => exact ⟨number, set, rfl⟩
  | none =>
      have admitted : set.admits native = true := by
        simp [admits, numbers.unfixed, natural]
      exact ⟨_, _, if_pos admitted⟩

theorem top_lt {set : IndexSet} {extent : Int} (natural : 0 ≤ extent)
    (inside : ∀ native ∈ set.natives, native < extent) : set.top < extent := by
  unfold top
  have steps : ∀ (natives : List Int) (start : Int), start < extent →
      (∀ native ∈ natives, native < extent) → natives.foldl max start < extent := by
    intro natives
    induction natives with
    | nil => exact fun start below _ => below
    | cons native rest inductionHypothesis =>
        intro start below all
        refine inductionHypothesis _ ?_ fun other member => all other (by simp [member])
        have first := all native (by simp)
        omega
  exact steps _ _ (by omega) inside

theorem le_top (set : IndexSet) : -1 ≤ set.top ∧ ∀ native ∈ set.natives, native ≤ set.top := by
  have steps : ∀ (natives : List Int) (start : Int), start ≤ natives.foldl max start ∧
      ∀ native ∈ natives, native ≤ natives.foldl max start := by
    intro natives
    induction natives with
    | nil => simp
    | cons native rest inductionHypothesis =>
        intro start
        obtain ⟨first, others⟩ := inductionHypothesis (max start native)
        rw [List.foldl_cons]
        refine ⟨by omega, fun other member => ?_⟩
        rcases List.mem_cons.mp member with rfl | later
        · omega
        · exact others other later
  exact steps set.natives (-1)

/-- An extent that is fixed lies beyond all native indices. -/
theorem lt_of_fixExtent {set changed : IndexSet} {extent : Int}
    (done : set.fixExtent extent = .ok changed) :
    changed = { set with fixedExtent := some extent } ∧
      ∀ native ∈ set.natives, native < extent := by
  unfold fixExtent at done
  split at done
  next => cases done
  next covered =>
    cases done
    refine ⟨rfl, fun native member => ?_⟩
    have most := set.le_top.2 native member
    omega

/-- No extent below zero is ever fixed. -/
theorem natural_of_fixExtent {set changed : IndexSet} {extent : Int}
    (done : set.fixExtent extent = .ok changed) : 0 ≤ extent := by
  unfold fixExtent at done
  split at done
  next => cases done
  next covered =>
    have least := set.le_top.1
    omega

theorem fixExtent_of_inside {set : IndexSet} {extent : Int} (natural : 0 ≤ extent)
    (inside : ∀ native ∈ set.natives, native < extent) :
    set.fixExtent extent = .ok { set with fixedExtent := some extent } := by
  rw [fixExtent, if_neg (by have below := top_lt natural inside; omega)]

end IndexSet

/-! ### Both axes -/

/-- Native indices inside a native shape. -/
def Inside {α : Type} (rowExtent columnExtent : Int) (entry : Int × Int × α) : Prop :=
  (0 ≤ entry.1 ∧ entry.1 < rowExtent) ∧ 0 ≤ entry.2.1 ∧ entry.2.1 < columnExtent

/-- A builder has collected entries in native indices. -/
structure SparseBuilder.Collects {α : Type} (builder : SparseBuilder α)
    (entries : List (Int × Int × α)) : Prop where
  separate : builder.axes = .separate builder.axes.rows builder.axes.columns
  rows : builder.axes.rows.Numbers builder.rows (entries.map (·.1))
  columns : builder.axes.columns.Numbers builder.columns (entries.map (·.2.1))
  values : builder.values = entries.map (·.2.2)

namespace SparseBuilder

variable {α : Type} {builder : SparseBuilder α} {entries : List (Int × Int × α)}

theorem collects_empty : Collects ({} : SparseBuilder α) [] :=
  ⟨rfl, IndexSet.numbers_empty, IndexSet.numbers_empty, rfl⟩

theorem outcome_addRow {rows columns changed : IndexSet}
    (separate : builder.axes = .separate rows columns) {row : Int} {number : Nat}
    (added : rows.add row = .ok (number, changed)) :
    (addRow row).outcome builder = (.ok (), { builder with
      axes := .separate changed columns, rows := builder.rows ++ [number] }) := by
  rw [addRow, outcome_ofFunction, separate]
  simp only [Axes.rows, added, Axes.setRows, bind, Except.bind, pure, Except.pure]

theorem outcome_addColumn {rows columns changed : IndexSet}
    (separate : builder.axes = .separate rows columns) {column : Int} {number : Nat}
    (added : columns.add column = .ok (number, changed)) :
    (addColumn column).outcome builder = (.ok (), { builder with
      axes := .separate rows changed, columns := builder.columns ++ [number] }) := by
  rw [addColumn, outcome_ofFunction, separate]
  simp only [Axes.columns, added, Axes.setColumns, bind, Except.bind, pure, Except.pure]

/-- What is left by an entry that is added: the column is looked up on axes that hold the row. -/
theorem add_eq_ok {row column : Int} {x : α} {changed : SparseBuilder α}
    (done : (SparseBuilder.add row column x).outcome builder = (.ok (), changed)) :
    ∃ number rows place columns, builder.axes.rows.add row = .ok (number, rows) ∧
      (builder.axes.setRows rows).columns.add column = .ok (place, columns) ∧
      changed = ⟨(builder.axes.setRows rows).setColumns columns, builder.rows ++ [number],
        builder.columns ++ [place], builder.values ++ [x]⟩ := by
  obtain ⟨_, middle, rowDone, rest⟩ := outcome_bind_eq_ok done
  obtain ⟨⟨number, rows⟩, rowAdded, same⟩ := bind_eq_ok (outcome_ofFunction_eq_ok rowDone)
  cases same
  obtain ⟨_, between, columnDone, last⟩ := outcome_bind_eq_ok rest
  obtain ⟨⟨place, columns⟩, columnAdded, same⟩ := bind_eq_ok (outcome_ofFunction_eq_ok columnDone)
  cases same
  cases last
  exact ⟨number, rows, place, columns, rowAdded, columnAdded, rfl⟩

/-- An entry that is added is collected. -/
theorem Collects.added (collects : builder.Collects entries) {row column : Int} {x : α}
    {changed : SparseBuilder α}
    (done : (SparseBuilder.add row column x).outcome builder = (.ok (), changed)) :
    changed.Collects (entries ++ [(row, column, x)]) := by
  obtain ⟨number, rows, place, columns, rowAdded, columnAdded, rfl⟩ := add_eq_ok done
  rw [collects.separate] at rowAdded columnAdded ⊢
  refine ⟨rfl, ?_, ?_, ?_⟩
  · rw [List.map_append]
    exact collects.rows.added rowAdded
  · rw [List.map_append]
    exact collects.columns.added columnAdded
  · simp [collects.values]

/-- A natural entry can be added. -/
theorem Collects.exists_add (collects : builder.Collects entries) {row column : Int}
    (rowNatural : 0 ≤ row) (columnNatural : 0 ≤ column) (x : α) :
    ∃ changed, (SparseBuilder.add row column x).outcome builder = (.ok (), changed) := by
  obtain ⟨number, rows, rowAdded⟩ := collects.rows.exists_add rowNatural
  obtain ⟨place, columns, columnAdded⟩ := collects.columns.exists_add columnNatural
  refine ⟨⟨.separate rows columns, builder.rows ++ [number], builder.columns ++ [place],
    builder.values ++ [x]⟩, ?_⟩
  rw [SparseBuilder.add, outcome_bind_of_ok (outcome_addRow collects.separate rowAdded),
    outcome_bind_of_ok (outcome_addColumn rfl columnAdded)]
  rfl

/-- Values that are read as integers name the row and the column of an entry. -/
theorem outcome_addAt {row column : Value} {r c : Int} (rowRead : row.toInteger = .ok r)
    (columnRead : column.toInteger = .ok c) (x : α) :
    (addAt row column x).outcome builder = (SparseBuilder.add r c x).outcome builder := by
  rw [addAt, rowRead, columnRead]
  rfl

/-- What holds of a builder and its entries, and still holds after one more, holds after all
entries of a list. -/
theorem addEntries_induction {motive : SparseBuilder α → List (Int × Int × α) → Prop}
    (step : ∀ {builder entries row column x changed}, motive builder entries →
      (SparseBuilder.add row column x).outcome builder = (.ok (), changed) →
        motive changed (entries ++ [(row, column, x)]))
    {more : NativeEntries α} {changed : SparseBuilder α} (start : motive builder entries)
    (done : (SparseBuilder.addEntries more).outcome builder = (.ok (), changed)) :
    motive changed (entries ++ more.entries) := by
  obtain ⟨shape, added⟩ := more
  unfold SparseBuilder.addEntries at done
  induction added generalizing builder entries with
  | nil =>
      cases done
      simpa using start
  | cons entry rest inductionHypothesis =>
      obtain ⟨_, middle, first, later⟩ := outcome_bind_eq_ok done
      have all := inductionHypothesis (step start first) later
      simpa using all

/-- All entries of a list that are added are collected. -/
theorem Collects.addedEntries (collects : builder.Collects entries) {more : NativeEntries α}
    {changed : SparseBuilder α}
    (done : (SparseBuilder.addEntries more).outcome builder = (.ok (), changed)) :
    changed.Collects (entries ++ more.entries) :=
  addEntries_induction (fun sofar added => sofar.added added) collects done

/-- All natural entries of a list can be added. -/
theorem Collects.exists_addEntries (collects : builder.Collects entries) (more : NativeEntries α)
    (natural : ∀ entry ∈ more.entries, 0 ≤ entry.1 ∧ 0 ≤ entry.2.1) :
    ∃ changed, (SparseBuilder.addEntries more).outcome builder = (.ok (), changed) := by
  obtain ⟨shape, added⟩ := more
  unfold SparseBuilder.addEntries
  induction added generalizing builder entries with
  | nil => exact ⟨builder, rfl⟩
  | cons entry rest inductionHypothesis =>
      obtain ⟨row, column, x⟩ := entry
      obtain ⟨rowNatural, columnNatural⟩ := natural (row, column, x) (by simp)
      obtain ⟨middle, first⟩ := collects.exists_add rowNatural columnNatural x
      obtain ⟨changed, later⟩ := inductionHypothesis (collects.added first)
        fun other member => natural other (by simp [member])
      exact ⟨changed, (outcome_bind_of_ok first _).trans later⟩

/-! ### The native shape -/

theorem outcome_fixRows {rows columns changed : IndexSet}
    (separate : builder.axes = .separate rows columns) {extent : Int}
    (fixed : rows.fixExtent extent = .ok changed) :
    (fixRows extent).outcome builder =
      (.ok (), { builder with axes := .separate changed columns }) := by
  rw [fixRows, outcome_ofFunction, separate]
  simp only [Axes.rows, fixed, Axes.setRows, bind, Except.bind, pure, Except.pure]

theorem outcome_fixColumns {rows columns changed : IndexSet}
    (separate : builder.axes = .separate rows columns) {extent : Int}
    (fixed : columns.fixExtent extent = .ok changed) :
    (fixColumns extent).outcome builder =
      (.ok (), { builder with axes := .separate rows changed }) := by
  rw [fixColumns, outcome_ofFunction, separate]
  simp only [Axes.columns, fixed, Axes.setColumns, bind, Except.bind, pure, Except.pure]

/-- The builder with both extents fixed. -/
def shaped (builder : SparseBuilder α) (rowExtent columnExtent : Int) : SparseBuilder α :=
  { builder with
    axes := .separate { builder.axes.rows with fixedExtent := some rowExtent }
      { builder.axes.columns with fixedExtent := some columnExtent } }

/-- A shape that covers all entries is fixed. -/
theorem Collects.fixShape (collects : builder.Collects entries) {rowExtent columnExtent : Int}
    (rowNatural : 0 ≤ rowExtent) (columnNatural : 0 ≤ columnExtent)
    (inside : ∀ entry ∈ entries, entry.1 < rowExtent ∧ entry.2.1 < columnExtent) :
    (SparseBuilder.fixShape (.int rowExtent) (.int columnExtent)).outcome builder =
      (.ok (), builder.shaped rowExtent columnExtent) := by
  have rows : ∀ native ∈ builder.axes.rows.natives, native < rowExtent := by
    intro native member
    obtain ⟨entry, entryMember, rfl⟩ := List.mem_map.mp (collects.rows.listed native member)
    exact (inside entry entryMember).1
  have columns : ∀ native ∈ builder.axes.columns.natives, native < columnExtent := by
    intro native member
    obtain ⟨entry, entryMember, rfl⟩ := List.mem_map.mp (collects.columns.listed native member)
    exact (inside entry entryMember).2
  have rowsFixed := IndexSet.fixExtent_of_inside rowNatural rows
  have columnsFixed := IndexSet.fixExtent_of_inside columnNatural columns
  exact (outcome_bind_of_ok (outcome_fixRows collects.separate rowsFixed) _).trans
    (outcome_fixColumns rfl columnsFixed)

/-- A shape that is fixed is one of two natural numbers, and all entries lie inside it. -/
theorem Collects.fixedShape (collects : builder.Collects entries) {rows columns : Value}
    {changed : SparseBuilder α}
    (done : (SparseBuilder.fixShape rows columns).outcome builder = (.ok (), changed)) :
    ∃ rowExtent columnExtent, rows.toInteger = .ok rowExtent ∧
      columns.toInteger = .ok columnExtent ∧ changed = builder.shaped rowExtent columnExtent ∧
      (0 ≤ rowExtent ∧ 0 ≤ columnExtent) ∧
      ∀ entry ∈ entries, Inside rowExtent columnExtent entry := by
  obtain ⟨rowExtent, between, rowRead, rest⟩ := outcome_bind_eq_ok done
  obtain ⟨_, middle, rowsDone, rest⟩ := outcome_bind_eq_ok rest
  obtain ⟨columnExtent, after, columnRead, columnsDone⟩ := outcome_bind_eq_ok rest
  obtain ⟨rowInteger, rfl⟩ := outcome_lift_eq_ok rowRead
  obtain ⟨columnInteger, rfl⟩ := outcome_lift_eq_ok columnRead
  obtain ⟨rowSet, rowCovered, same⟩ := bind_eq_ok (outcome_ofFunction_eq_ok rowsDone)
  cases same
  obtain ⟨columnSet, columnCovered, same⟩ := bind_eq_ok (outcome_ofFunction_eq_ok columnsDone)
  cases same
  rw [collects.separate] at rowCovered columnCovered ⊢
  have rowNatural := IndexSet.natural_of_fixExtent rowCovered
  have columnNatural := IndexSet.natural_of_fixExtent columnCovered
  obtain ⟨rfl, rowsBelow⟩ := IndexSet.lt_of_fixExtent rowCovered
  obtain ⟨rfl, columnsBelow⟩ := IndexSet.lt_of_fixExtent columnCovered
  refine ⟨rowExtent, columnExtent, rowInteger, columnInteger, rfl, ⟨rowNatural, columnNatural⟩,
    fun entry member => ?_⟩
  have row := collects.rows.mem_iff.mpr (List.mem_map_of_mem member)
  have column := collects.columns.mem_iff.mpr (List.mem_map.mpr ⟨entry, member, rfl⟩)
  exact ⟨⟨collects.rows.natural _ row, rowsBelow _ row⟩,
    collects.columns.natural _ column, columnsBelow _ column⟩

end SparseBuilder

end Regrid
