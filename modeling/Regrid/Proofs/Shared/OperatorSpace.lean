import Regrid.Proofs.Array.Position
import Regrid.Proofs.Shared.Heap
import Regrid.Proofs.Sparse.Growth
import Regrid.Proofs.Sparse.Vectors
import Regrid.Shared.OperatorSpace

/-!
Contract: an operator whose axes go on growing after it was assembled.

Owns:
- what an operator answers on grown axes, against what it answered before;
- runs of steps on all builders of a space;
- that in each run the axes of every operator only grow.

The matrix of an operator is its own, its axes are shared. A native index that an axis
takes in later has a number beyond the matrix.
-/

namespace Regrid

open Attempt

/-! ### Grown sets -/

namespace IndexSet

variable {set grown : IndexSet}

theorem mem_iff_dense? {native : Int} : native ∈ set.natives ↔ (set.dense? native).isSome := by
  cases known : set.dense? native with
  | some number => simpa using List.mem_of_getElem? (getElem?_of_dense? known)
  | none => simpa using not_mem_of_dense? known

/-- A grown set has the old numbers for the old indices, and higher ones for the others. -/
theorem Grows.dense? (grows : set.Grows grown) (native : Int) :
    (∃ number, number < set.natives.length ∧ set.dense? native = some number ∧
      grown.dense? native = some number) ∨
    (set.dense? native = none ∧ ∀ number, grown.dense? native = some number →
      set.natives.length ≤ number) := by
  obtain ⟨more, same⟩ := grows
  have split : grown.dense? native = (set.dense? native).or
      ((more.findIdx? (· == native)).map (· + set.natives.length)) := by
    rw [IndexSet.dense?, ← same, List.findIdx?_append]
    rfl
  rw [split]
  cases known : set.dense? native with
  | some number =>
      have bound := (List.getElem?_eq_some_iff.mp (getElem?_of_dense? known)).1
      exact .inl ⟨number, bound, rfl, rfl⟩
  | none =>
      refine .inr ⟨rfl, fun number found => ?_⟩
      obtain ⟨place, _, rfl⟩ := Option.map_eq_some_iff.mp found
      exact Nat.le_add_left _ _

/-- A set that has gained no index is the same up to its extent. -/
theorem Grows.eq_of_length (grows : set.Grows grown)
    (counted : grown.natives.length = set.natives.length) : grown.natives = set.natives :=
  (List.IsPrefix.eq_of_length grows counted.symm).symm

end IndexSet

/-! ### What an operator answers on grown axes -/

namespace DenseOperator

variable {α : Type}

/-- The matrix of an operator has one row and one column for each index of its axes. -/
structure Fits (operator : DenseOperator α) : Prop where
  rows : operator.matrix.rowCount = operator.axes.rows.natives.length
  columns : operator.matrix.columnCount = operator.axes.columns.natives.length

/-- The same operator on other axes. -/
def onAxes (operator : DenseOperator α) (axes : Axes) : DenseOperator α := { operator with axes }

/-- The axes of an operator both hold the indices, and one of them was taken in too late for
the matrix. -/
def Outgrown (operator : DenseOperator α) (axes : Axes) (row column : Int) : Prop :=
  (row ∈ axes.rows.natives ∧ column ∈ axes.columns.natives) ∧
    ¬ (row ∈ operator.axes.rows.natives ∧ column ∈ operator.axes.columns.natives)

instance (operator : DenseOperator α) (axes : Axes) (row column : Int) :
    Decidable (operator.Outgrown axes row column) :=
  inferInstanceAs (Decidable (_ ∧ ¬ _))

variable {operator : DenseOperator α} {axes : Axes}

section Values

variable [Scalar α]

/-- The value at two integers, by the dense numbers that the axes have for them. -/
theorem value_int (operator : DenseOperator α) (row column : Int) :
    operator.value (.int row) (.int column) =
      match operator.axes.rows.dense? row, operator.axes.columns.dense? column with
      | some r, some c =>
        if r < operator.matrix.rowCount ∧ c < operator.matrix.columnCount then
          .ok ((operator.matrix.entry? r c).getD Scalar.zero)
        else .error .positionOutside
      | _, _ => .ok Scalar.zero := by
  have member : ∀ set : IndexSet, ∀ native : Int, set.member? (.int native) =
      .ok ((set.dense? native).map fun _ => native) := by
    intro set native
    simp only [member?_int, IndexSet.mem_iff_dense?]
    cases set.dense? native <;> rfl
  unfold DenseOperator.value IndexSet.toDense
  rw [member, member]
  cases rowKnown : operator.axes.rows.dense? row with
  | none => rfl
  | some r =>
      cases columnKnown : operator.axes.columns.dense? column with
      | none => rfl
      | some c => simp only [Option.map_some, bind, Except.bind, rowKnown, columnKnown]; rfl

/-- The value on grown axes is the one from before, or is refused where a needed index was
taken in after the matrix was assembled. -/
theorem value_onAxes (fits : operator.Fits) (grows : operator.axes.Grows axes)
    (row column : Int) :
    ∃ x, operator.value (.int row) (.int column) = .ok x ∧
      (operator.Outgrown axes row column → x = Scalar.zero) ∧
      (operator.onAxes axes).value (.int row) (.int column) =
        if operator.Outgrown axes row column then .error .positionOutside else .ok x := by
  have rows := fits.rows
  have columns := fits.columns
  simp only [value_int, onAxes, Outgrown, IndexSet.mem_iff_dense?]
  rcases grows.rows.dense? row with ⟨r, rowBound, rowKnown, rowKept⟩ | ⟨rowNew, rowLate⟩
  · rcases grows.columns.dense? column with
      ⟨c, columnBound, columnKnown, columnKept⟩ | ⟨columnNew, columnLate⟩
    · have inside : r < operator.matrix.rowCount ∧ c < operator.matrix.columnCount := by omega
      refine ⟨_, by rw [rowKnown, columnKnown]; exact if_pos inside, ?_, ?_⟩
      · simp [rowKnown, columnKnown]
      · simp [rowKnown, rowKept, columnKnown, columnKept, inside]
    · refine ⟨Scalar.zero, by rw [columnNew, rowKnown], fun _ => rfl, ?_⟩
      cases columnKept : axes.columns.dense? column with
      | none => simp [rowKept]
      | some c =>
          have outside : ¬ c < operator.matrix.columnCount := by
            have late := columnLate c columnKept
            omega
          simp [rowKept, columnNew, outside]
  · refine ⟨Scalar.zero, by rw [rowNew], fun _ => rfl, ?_⟩
    cases rowKept : axes.rows.dense? row with
    | none => simp
    | some r =>
        cases columnKept : axes.columns.dense? column with
        | none => simp
        | some c =>
            have outside : ¬ r < operator.matrix.rowCount := by
              have late := rowLate r rowKept
              omega
            simp [rowNew, outside]

end Values

/-- Entries that were read back are read back again exactly when the indices of the grown axes
fit 64 bits. -/
theorem toNative_onAxes (grows : operator.axes.Grows axes) {native : NativeEntries α}
    (read : operator.toNative = .ok native) :
    (operator.onAxes axes).toNative = .ok native ↔
      (∀ index ∈ axes.rows.natives, word index = .ok index) ∧
        ∀ index ∈ axes.columns.natives, word index = .ok index := by
  obtain ⟨_, _, shape, stands⟩ := toNative_eq_ok_iff.mp read
  rw [toNative_eq_ok_iff]
  refine ⟨fun ⟨rows, columns, _⟩ => ⟨rows, columns⟩, fun ⟨rows, columns⟩ =>
    ⟨rows, columns, shape, stands.imp fun entry answer => ?_⟩⟩
  rintro ⟨rowFound, columnFound, value⟩
  exact ⟨grows.rows.getElem? rowFound, grows.columns.getElem? columnFound, value⟩

/-- A product that was answered is answered again exactly when neither axis has gained an
index, the rows have the same extent, and the vector still covers the columns. -/
theorem apply_onAxes [Scalar α] (fits : operator.Fits) (grows : operator.axes.Grows axes)
    {fill : α} {vector : Tensor α} {product : List α}
    (answered : operator.apply fill vector = .ok product) :
    (operator.onAxes axes).apply fill vector = .ok product ↔
      axes.rows.natives = operator.axes.rows.natives ∧
      axes.columns.natives = operator.axes.columns.natives ∧
      axes.rows.sparseExtent = operator.axes.rows.sparseExtent ∧
      ∃ length, IndexSet.leadingSize vector = .ok length ∧
        axes.columns.sparseExtent ≤ length := by
  obtain ⟨dense, gathered, rest⟩ := bind_eq_ok answered
  obtain ⟨conforms, spread⟩ := refuse_eq_ok_iff.mp rest
  constructor
  · intro again
    obtain ⟨other, otherGathered, otherRest⟩ := bind_eq_ok again
    obtain ⟨otherConforms, otherSpread⟩ := refuse_eq_ok_iff.mp otherRest
    obtain ⟨length, sized, covers, natives, words, _, _, rfl⟩ :=
      IndexSet.gather_eq_ok_iff.mp otherGathered
    obtain ⟨rfl, _⟩ := IndexSet.nativeWords_eq_ok_iff.mp words
    obtain ⟨counted, spans, _⟩ := IndexSet.spread_eq_ok otherSpread
    have columnsCounted : axes.columns.natives.length = operator.matrix.columnCount :=
      Option.some.inj (not_not.mp fun differ => otherConforms (.inl differ))
    have rowsCounted : operator.matrix.rowCount = axes.rows.natives.length :=
      Except.ok.inj counted
    have before := (IndexSet.spread_eq_ok spread).2.1
    exact ⟨grows.rows.eq_of_length (by rw [← rowsCounted, fits.rows]),
      grows.columns.eq_of_length (by rw [columnsCounted, fits.columns]), spans.symm.trans before,
      length, sized, covers⟩
  · rintro ⟨rows, columns, extent, length, sized, covers⟩
    obtain ⟨_, known, _, natives, words, items, read, rfl⟩ :=
      IndexSet.gather_eq_ok_iff.mp gathered
    obtain rfl := Except.ok.inj (sized.symm.trans known)
    have sameWords : axes.columns.nativeWords = operator.axes.columns.nativeWords := by
      rw [IndexSet.nativeWords, IndexSet.nativeWords, columns]
    have regathered := IndexSet.gather_eq_ok_iff.mpr
      ⟨length, sized, covers, natives, sameWords.trans words, items, read, rfl⟩
    refine bind_eq_ok_iff.mpr ⟨_, regathered, refuse_eq_ok_iff.mpr ⟨conforms, ?_⟩⟩
    exact (IndexSet.spread_congr _ _ rows extent).trans spread

end DenseOperator

/-! ### Runs of steps -/

/-- A step on a builder. -/
inductive BuilderStep where
  | add (row column x : Value)
  | extend (triples : Value)
  | fixShape (shape : Value)

def BuilderStep.perform : BuilderStep → Attempt (SparseBuilder Float) Unit
  | add row column x => SparseBuilder.addValue row column x
  | extend triples => SparseBuilder.extend triples
  | fixShape shape => SparseBuilder.fixShapeOf shape

theorem BuilderStep.perform_grows (axes : Axes) (step : BuilderStep) :
    step.perform.Preserves fun builder => axes.Grows builder.axes := by
  have kept := SparseBuilder.grows_keptByParts (α := Float) axes
  cases step with
  | add row column x => exact kept.addValue row column x
  | extend triples => exact kept.extend triples
  | fixShape shape => exact kept.fixShapeOf shape

namespace OperatorSpace

/-- A step in a space: on any of its builders, or a further builder on some of its sets. -/
inductive Step where
  | onBuilder (ref : Ref (SharedBuilder Float)) (step : BuilderStep)
  | share (axes : AxisRefs)

def Step.perform : Step → Attempt (OperatorSpace Float) Unit
  | onBuilder ref step => OperatorSpace.onBuilder ref step.perform
  | share axes => do let _ ← makeBuilder (some axes)

/-- The space after steps in order. A refused step is passed over, with whatever it has left
behind. -/
def after (steps : List Step) (space : OperatorSpace Float) : OperatorSpace Float :=
  steps.foldl (fun space step => (step.perform.outcome space).2) space

variable {space : OperatorSpace Float}

@[simp]
theorem rows_axes {α : Type} (space : OperatorSpace α) (refs : AxisRefs) :
    (space.axes refs).rows = space.sets.get refs.1 := by
  unfold axes
  split <;> rfl

@[simp]
theorem columns_axes {α : Type} (space : OperatorSpace α) (refs : AxisRefs) :
    (space.axes refs).columns = space.sets.get refs.2 := by
  unfold axes
  split
  next same => exact congrArg space.sets.get same
  next => rfl

/-- Each step only grows the sets, whoever holds them. -/
theorem Step.perform_grows (set : IndexSet) (ref : Ref IndexSet) (step : Step) :
    step.perform.Preserves fun space => set.Grows (space.sets.get ref) := by
  intro space grows
  cases step with
  | share axes => exact grows
  | onBuilder builder step =>
      have grown := step.perform_grows _ (space.viewBuilder builder) (.refl _)
      have rows := grown.rows
      have columns := grown.columns
      simp only [viewBuilder, rows_axes, columns_axes] at rows columns
      refine Heap.holds_get_set (Heap.holds_get_set grows ?_) ?_
      · rintro rfl
        exact grows.trans rows
      · rintro rfl
        exact grows.trans columns

theorem after_grows (steps : List Step) (space : OperatorSpace Float) (refs : AxisRefs) :
    (space.axes refs).Grows ((after steps space).axes refs) := by
  have sets : ∀ (set : IndexSet) (ref : Ref IndexSet), set.Grows (space.sets.get ref) →
      set.Grows ((after steps space).sets.get ref) := by
    intro set ref
    induction steps generalizing space with
    | nil => exact id
    | cons step rest inductionHypothesis =>
        exact fun grows => inductionHypothesis _ (step.perform_grows set ref space grows)
  constructor
  · simpa using sets _ refs.1 (.refl _)
  · simpa using sets _ refs.2 (.refl _)

/-- What is assembled is seen in the space as the operator of its builder, and the space stays as
it is. -/
theorem assemble_eq_ok {α : Type} [Scalar α] {space left : OperatorSpace α}
    {ref : Ref (SharedBuilder α)} {operator : SharedOperator α}
    (assembled : (assemble ref).outcome space = (.ok operator, left)) :
    left = space ∧ (space.viewBuilder ref).toOperator = .ok (space.view operator) := by
  obtain ⟨_, _, seen, rest⟩ := outcome_bind_eq_ok assembled
  cases seen
  obtain ⟨made, _, read, rest⟩ := outcome_bind_eq_ok rest
  obtain ⟨built, rfl⟩ := outcome_lift_eq_ok read
  cases rest
  refine ⟨rfl, built.trans ?_⟩
  obtain ⟨_, rfl⟩ := SparseBuilder.toOperator_eq_ok built
  rfl

/-- An operator that was just assembled fits its axes. -/
theorem fits_of_assemble {ref : Ref (SharedBuilder Float)} {operator : SharedOperator Float}
    {left : OperatorSpace Float}
    (assembled : (assemble ref).outcome space = (.ok operator, left)) :
    left = space ∧ (space.view operator).Fits := by
  obtain ⟨same, built⟩ := assemble_eq_ok assembled
  obtain ⟨_, whole⟩ := SparseBuilder.toOperator_eq_ok built
  refine ⟨same, ?_, ?_⟩
  · rw [whole]
    simp [SparseMatrix.assemble, SparseMatrix.rowCount]
  · rw [whole]
    rfl

/-- After any further steps on the builders of a space, refused ones included, an operator that
was assembled before them
- has the same value at every native row and column, except where both axes now hold the
  index and one of them took it in since: there the value, which was zero, is refused;
- is read back as before exactly when all native indices of its axes fit 64 bits;
- has the same product with a vector exactly when neither axis has taken in an index, the
  rows have the same extent, and the vector still covers the columns. -/
theorem operator_after_steps {ref : Ref (SharedBuilder Float)} {operator : SharedOperator Float}
    {left : OperatorSpace Float}
    (assembled : (assemble ref).outcome space = (.ok operator, left)) (steps : List Step) :
    let before := space.view operator
    let now := (after steps left).view operator
    (∀ row column : Int, ∃ x, before.value (.int row) (.int column) = .ok x ∧
      (before.Outgrown now.axes row column → x = Scalar.zero) ∧
      now.value (.int row) (.int column) =
        if before.Outgrown now.axes row column then .error .positionOutside else .ok x) ∧
    (∀ native, before.toNative = .ok native →
      (now.toNative = .ok native ↔
        (∀ index ∈ now.axes.rows.natives, word index = .ok index) ∧
          ∀ index ∈ now.axes.columns.natives, word index = .ok index)) ∧
    ∀ fill vector product, before.apply fill vector = .ok product →
      (now.apply fill vector = .ok product ↔
        now.axes.rows.natives = before.axes.rows.natives ∧
        now.axes.columns.natives = before.axes.columns.natives ∧
        now.axes.rows.sparseExtent = before.axes.rows.sparseExtent ∧
        ∃ length, IndexSet.leadingSize vector = .ok length ∧
          now.axes.columns.sparseExtent ≤ length) := by
  obtain ⟨rfl, fits⟩ := fits_of_assemble assembled
  have grows := after_grows steps left operator.axes
  exact ⟨fun row column => DenseOperator.value_onAxes fits grows row column,
    fun native read => DenseOperator.toNative_onAxes grows read,
    fun fill vector product answered => DenseOperator.apply_onAxes fits grows answered⟩

/-- A new builder that was given one entry, at row and column zero. -/
def singleEntry : OperatorSpace Float :=
  after [.onBuilder ⟨0⟩ (.add (.int 0) (.int 0) (.float 1.0))] ((makeBuilder none).outcome {}).2

/-- A second entry at the same position comes too late for the operator, and does not show. -/
theorem repeated_index_keeps_value :
    ∃ operator, (assemble ⟨0⟩).outcome singleEntry = (.ok operator, singleEntry) ∧
      ((after [.onBuilder ⟨0⟩ (.add (.int 0) (.int 0) (.float 5.0))] singleEntry).view
        operator).value (.int 0) (.int 0) = .ok 1.0 := by
  refine ⟨_, rfl, ?_⟩
  have assembled : (assemble ⟨0⟩).outcome singleEntry = (.ok _, singleEntry) := rfl
  obtain ⟨values, _⟩ := operator_after_steps assembled
    [.onBuilder ⟨0⟩ (.add (.int 0) (.int 0) (.float 5.0))]
  obtain ⟨x, before, _, now⟩ := values 0 0
  have known : x = 1.0 := (Except.ok.inj before).symm
  rw [if_neg (by decide), known] at now
  exact now

/-- A row that is taken in after the matrix was assembled cannot be asked for any more, although
its value was zero before. -/
theorem late_row_is_refused :
    ∃ operator, (assemble ⟨0⟩).outcome singleEntry = (.ok operator, singleEntry) ∧
      (singleEntry.view operator).value (.int 1) (.int 0) = .ok Scalar.zero ∧
      ((after [.onBuilder ⟨0⟩ (.add (.int 1) (.int 1) (.float 2.0))] singleEntry).view
        operator).value (.int 1) (.int 0) = .error .positionOutside :=
  ⟨_, rfl, rfl, rfl⟩

end OperatorSpace

end Regrid
