import Regrid.Proofs.Shared.Views

/-!
Contract: operators that are fed to one new builder.

Owns:
- a builder that is given the native entries of several operators, and what it collects;
- that the operator which it is assembled to has the sums of their values.

Does not own: how the operators were made.

Every operator numbers its rows and columns in its own way. Reading its entries back undoes that
numbering and adding them applies another one, so the sums are compared at native positions, where
neither shows.
-/

namespace Regrid

open Attempt OperatorSpace

/-- The operator of the native entries of operators, added in order, inside a native shape that is
fixed last. -/
def combine {α : Type} [Scalar α] (operators : List (DenseOperator α)) (rows columns : Int) :
    Attempt (SparseBuilder α) (DenseOperator α) := do
  operators.forM fun operator => do SparseBuilder.addEntries (← operator.toNative)
  SparseBuilder.fixShape (.int rows) (.int columns)
  (← get).toOperator

section Collected

variable {α : Type} {operators : List (DenseOperator α)} {natives : List (NativeEntries α)}
  {rows columns : Int}

/-- All entries that are read back are collected, operator by operator. -/
theorem SparseBuilder.Collects.exists_addAll {builder : SparseBuilder α}
    {entries : List (Int × Int × α)} (collects : builder.Collects entries)
    (read : List.Forall₂ (fun operator native => operator.toNative = .ok native) operators natives)
    (inside : ∀ native ∈ natives, ∀ entry ∈ native.entries, Inside rows columns entry) :
    ∃ changed, Attempt.outcome (operators.forM fun operator => do
        SparseBuilder.addEntries (← operator.toNative)) builder = (.ok (), changed) ∧
      changed.Collects (entries ++ natives.flatMap (·.entries)) := by
  induction read generalizing builder entries with
  | nil => exact ⟨builder, rfl, by simpa using collects⟩
  | @cons operator native _ rest first _ inductionHypothesis =>
      obtain ⟨middle, added⟩ := collects.exists_addEntries native fun entry member =>
        ⟨(inside native (by simp) entry member).1.1, (inside native (by simp) entry member).2.1⟩
      obtain ⟨changed, others, collected⟩ := inductionHypothesis (collects.addedEntries added)
        fun other member => inside other (by simp [member])
      have step : (do SparseBuilder.addEntries (← operator.toNative) :
          Attempt (SparseBuilder α) Unit).outcome builder = (.ok (), middle) := by
        rw [first]
        exact added
      refine ⟨changed, (outcome_bind_of_ok step _).trans others, ?_⟩
      rwa [List.append_assoc, ← List.flatMap_cons] at collected

/-- Operators whose entries are read back inside a shape are combined in it. -/
theorem exists_combine [Scalar α]
    (read : List.Forall₂ (fun operator native => operator.toNative = .ok native) operators natives)
    (inside : ∀ native ∈ natives, ∀ entry ∈ native.entries, Inside rows columns entry)
    (rowsNatural : 0 ≤ rows) (columnsNatural : 0 ≤ columns) :
    ∃ combined after, (combine operators rows columns).outcome {} = (.ok combined, after) ∧
      combined.Assembles (natives.flatMap (·.entries)) rows columns := by
  obtain ⟨filled, added, collects⟩ :=
    SparseBuilder.collects_empty.exists_addAll read inside
  have listed : ∀ entry ∈ natives.flatMap (·.entries), Inside rows columns entry := by
    intro entry member
    obtain ⟨native, nativeMember, own⟩ := List.mem_flatMap.mp member
    exact inside native nativeMember entry own
  have fixed := collects.fixShape rowsNatural columnsNatural fun entry member =>
    ⟨(listed entry member).1.2, (listed entry member).2.2⟩
  obtain ⟨combined, done, assembles⟩ := collects.exists_toOperator rows columns
  refine ⟨combined, filled.shaped rows columns, ?_, assembles⟩
  rw [combine, outcome_bind_of_ok added, outcome_bind_of_ok fixed,
    outcome_bind_of_ok (outcome_get _), done]
  rfl

end Collected

/-! ### Sums of values -/

/-- The native entries of an operator lie inside a shape and add up to its values. -/
structure DenseOperator.ReadsBack (rows columns : Int) (operator : DenseOperator Rat)
    (native : NativeEntries Rat) : Prop where
  read : operator.toNative = .ok native
  inside : ∀ entry ∈ native.entries, Inside rows columns entry
  value : ∀ row column : Int, operator.value (.int row) (.int column) =
    .ok (valuesAt native.entries row column).sum

/-- An operator whose native shape fits 64 bits is read back inside every larger shape. -/
theorem DenseOperator.Made.exists_readsBack {operator : DenseOperator Rat} (made : operator.Made)
    (fits : operator.FitsWords) {rows columns : Int} (rowsCovered : operator.nativeShape.1 ≤ rows)
    (columnsCovered : operator.nativeShape.2 ≤ columns) :
    ∃ native, operator.ReadsBack rows columns native := by
  obtain ⟨_, represents⟩ := made.represents
  have views := represents.views
  obtain ⟨native, done⟩ := views.reads.mpr fits
  obtain ⟨shape, inside, values⟩ := views.read native done
  refine ⟨native, done, fun entry member => ?_, fun row column => ?_⟩
  · obtain ⟨rowInside, columnInside⟩ := inside entry member
    rw [shape] at rowInside columnInside
    exact ⟨⟨rowInside.1, Int.lt_of_lt_of_le rowInside.2 rowsCovered⟩, columnInside.1,
      Int.lt_of_lt_of_le columnInside.2 columnsCovered⟩
  · rw [values]
    exact views.single row column

/-- Operators that were assembled and scaled, whatever their own sets and whatever the order in
which they are fed to one new builder, are combined in every native shape that covers theirs, if
these fit 64 bits. The combination has the sum of their values at every native row and column, and
a single operator keeps its values. -/
theorem combined_values_add_up {operators ordered : List (DenseOperator Rat)}
    (made : ∀ operator ∈ operators, operator.Made)
    (fits : ∀ operator ∈ operators, operator.FitsWords) {rows columns : Int}
    (rowsNatural : 0 ≤ rows) (columnsNatural : 0 ≤ columns)
    (covers : ∀ operator ∈ operators,
      operator.nativeShape.1 ≤ rows ∧ operator.nativeShape.2 ≤ columns)
    (perm : ordered.Perm operators) :
    ∃ combined after, (combine ordered rows columns).outcome {} = (.ok combined, after) ∧
      combined.nativeShape = (rows, columns) ∧
      (∀ row column : Int, ∃ values,
        operators.mapM (fun operator => operator.value (.int row) (.int column)) = .ok values ∧
        combined.value (.int row) (.int column) = .ok values.sum) ∧
      ∀ operator, operators = [operator] → ∀ row column : Int,
        combined.value (.int row) (.int column) = operator.value (.int row) (.int column) := by
  obtain ⟨natives, each⟩ := exists_forall₂ (R := DenseOperator.ReadsBack rows columns)
    fun operator member => (made operator member).exists_readsBack (fits operator member)
      (covers operator member).1 (covers operator member).2
  obtain ⟨orderedNatives, orderedEach, nativesPerm⟩ := List.perm_comp_forall₂ perm each
  have inside : ∀ native ∈ orderedNatives, ∀ entry ∈ native.entries, Inside rows columns entry := by
    intro native member
    obtain ⟨_, _, back⟩ := exists_item_of_mem orderedEach member
    exact back.inside
  obtain ⟨combined, after, done, assembles⟩ := exists_combine
    (orderedEach.imp fun _ _ back => back.read) inside rowsNatural columnsNatural
  have sums : ∀ row column : Int, combined.value (.int row) (.int column) =
      .ok (natives.map fun native => (valuesAt native.entries row column).sum).sum := by
    intro row column
    rw [assembles.value, valuesAt_flatMap, List.flatMap_def, List.sum_flatten, List.map_map,
      ← (nativesPerm.map _).sum_eq]
    rfl
  refine ⟨combined, after, done, assembles.nativeShape, fun row column =>
    ⟨_, (mapM_eq_ok_iff ..).mpr (List.forall₂_map_right_iff.mpr
      (each.imp fun _ _ back => back.value row column)), sums row column⟩, ?_⟩
  rintro operator rfl row column
  cases each with
  | cons back none =>
      cases none
      rw [sums, back.value, List.map_singleton, List.sum_singleton]

/-- Two operators of one entry each at the same position, the second one first. -/
theorem two_entries_combined : ∃ combined after,
    (combine [oneEntryOperator 5, oneEntryOperator 3] 2 4).outcome {} = (.ok combined, after) ∧
    combined.value (.int 1) (.int 2) = .ok (3 + (5 + 0)) := by
  have made : ∀ operator ∈ [oneEntryOperator 3, oneEntryOperator 5], operator.Made := by
    simp [oneEntryOperator_made]
  have shape : ∀ operator ∈ [oneEntryOperator 3, oneEntryOperator 5],
      operator.nativeShape = (2, 3) := by
    simp [oneEntryOperator]
  have fits : ∀ operator ∈ [oneEntryOperator 3, oneEntryOperator 5], operator.FitsWords := by
    intro operator member
    rw [DenseOperator.FitsWords, shape operator member]
    exact ⟨rfl, rfl⟩
  obtain ⟨combined, after, done, _, values, _⟩ := combined_values_add_up made fits
    (by decide : (0 : Int) ≤ 2) (by decide : (0 : Int) ≤ 4)
    (fun operator member => by rw [shape operator member]; decide) (.swap _ _ _)
  obtain ⟨_, known, sum⟩ := values 1 2
  cases known
  exact ⟨combined, after, done, sum⟩

/-- An operator whose row needs more than 64 bits cannot be fed to a builder, not even alone. -/
theorem wide_operator_is_not_combined : ∃ operator : DenseOperator Rat, operator.Made ∧
    operator.nativeShape = (0x8000000000000001, 1) ∧
    operator.value (.int 0x8000000000000000) (.int 0) = .ok 1 ∧
    ((combine [operator] 0x8000000000000001 1).outcome {}).1 = .error .numberTooLarge := by
  have assembled : (assemble ⟨0⟩).outcome
      (oneEntry 0x8000000000000000 0 1) = (.ok _, _) := rfl
  exact ⟨_, .assembled (oneEntry_reached _ _ _) assembled rfl, rfl, rfl, rfl⟩

end Regrid
