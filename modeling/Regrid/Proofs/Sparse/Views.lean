import Regrid.Proofs.Sparse.Action
import Regrid.Proofs.Sparse.Assembly
import Regrid.Proofs.Sparse.IndexSet

/-!
Contract: the views of an operator, against one partial function of native row and column.

Owns:
- what an operator represents when its builder was proper, and after its rows were scaled;
- single values, entries read back and products with vectors in these terms;
- how many entries are stored after scaling.

Does not own: how builders are filled, and sets that change later.

Each view crosses the axes in its own direction: a single value looks its indices up, reading back
names the numbers, and a product does both. All of them are compared with what is stored at native
positions, never with each other.
-/

namespace Regrid

open Attempt SparseMatrix

/-! ### Represented cells -/

/-- An operator stores a partial function of native row and column on proper axes, and has the
native shape of these axes. -/
structure DenseOperator.Represents {α : Type} (operator : DenseOperator α)
    (cell : Int → Int → Option α) : Prop where
  stores : operator.Stores cell
  rowSet : operator.axes.rows.Proper
  columnSet : operator.axes.columns.Proper
  nativeShape : operator.nativeShape =
    (operator.axes.rows.sparseExtent, operator.axes.columns.sparseExtent)

/-- The native shape consists of integers of 64 bits. -/
def DenseOperator.FitsWords {α : Type} (operator : DenseOperator α) : Prop :=
  word operator.nativeShape.1 = .ok operator.nativeShape.1 ∧
    word operator.nativeShape.2 = .ok operator.nativeShape.2

section Builders

variable {α : Type} {joint : Bool} {builder : SparseBuilder α}

/-- A proper builder with as many rows and columns as values records the entries that the numbers
stand for. -/
theorem SparseBuilder.Proper.exists_records (proper : builder.Proper joint)
    (rowsCounted : builder.rows.length = builder.values.length)
    (columnsCounted : builder.columns.length = builder.values.length) :
    ∃ entries, builder.Records entries := by
  obtain ⟨rows, rowsNumbered⟩ := exists_forall₂
    (R := fun number native => builder.axes.rows.natives[number]? = some native)
    fun number member => ⟨_, List.getElem?_eq_getElem (proper.rows number member)⟩
  obtain ⟨columns, columnsNumbered⟩ := exists_forall₂
    (R := fun number native => builder.axes.columns.natives[number]? = some native)
    fun number member => ⟨_, List.getElem?_eq_getElem (proper.columns number member)⟩
  have rowsLength := rowsNumbered.length_eq
  have columnsLength := columnsNumbered.length_eq
  have pairs : (columns.zip builder.values).length = builder.values.length := by
    rw [List.length_zip]
    omega
  have rest : (rows.zip (columns.zip builder.values)).map (·.2) = columns.zip builder.values :=
    List.map_snd_zip (by omega)
  have columnsRead := congrArg (List.map (·.1)) rest
  have valuesRead := congrArg (List.map (·.2)) rest
  rw [List.map_map, List.map_fst_zip (by omega)] at columnsRead
  rw [List.map_map, List.map_snd_zip (by omega)] at valuesRead
  refine ⟨rows.zip (columns.zip builder.values),
    ⟨proper.rowSet.distinct, proper.columnSet.distinct⟩, ?_, ?_, ?_⟩
  · rw [List.map_fst_zip (by omega)]
    exact rowsNumbered
  · exact columnsRead.symm ▸ columnsNumbered
  · exact valuesRead.symm

/-- What a proper builder is assembled to represents the sums of some native entries. -/
theorem SparseBuilder.Proper.represents [Scalar α] (proper : builder.Proper joint)
    {operator : DenseOperator α} (done : builder.toOperator = .ok operator) :
    ∃ cell, operator.Represents cell := by
  obtain ⟨⟨rowsCounted, columnsCounted⟩, whole⟩ := toOperator_eq_ok done
  obtain ⟨entries, records⟩ := proper.exists_records rowsCounted columnsCounted
  obtain ⟨other, otherDone, stores⟩ := records.exists_toOperator
  obtain rfl := Except.ok.inj (done.symm.trans otherDone)
  refine ⟨_, stores, ?_, ?_, ?_⟩
  · rw [whole]
    exact proper.rowSet
  · rw [whole]
    exact proper.columnSet
  · rw [whole]

end Builders

namespace DenseOperator.Represents

section Entries

variable {α : Type} [Scalar α] {operator scaled : DenseOperator α}
  {cell : Int → Int → Option α}

/-- Factors, one for each row, belong to the native rows; the scaled operator represents the
products that do not vanish. -/
theorem scaleRows (represents : operator.Represents cell) {factors : List α}
    (counted : factors.length = operator.axes.rows.natives.length) :
    ∃ (factor : Int → α) (scaled : DenseOperator α),
      factors = operator.axes.rows.natives.map factor ∧
      operator.scaleRows (.ofList factors) = .ok scaled ∧ scaled.axes = operator.axes ∧
      scaled.Represents fun row column => (cell row column).bind (scaled? (factor row)) := by
  obtain ⟨factor, rfl⟩ := exists_map_eq_of_nodup represents.stores.rowsDistinct counted
  obtain ⟨scaled, done, axes, shape, stores⟩ := represents.stores.scaleRows factor
  refine ⟨factor, scaled, rfl, done, axes, stores, ?_, ?_, ?_⟩
  · rw [axes]
    exact represents.rowSet
  · rw [axes]
    exact represents.columnSet
  · rw [shape, axes, represents.nativeShape]

/-- An operator that was scaled represents something again. -/
theorem of_scaleRows (represents : operator.Represents cell) {factors : List α}
    (done : operator.scaleRows (.ofList factors) = .ok scaled) :
    ∃ cell, scaled.Represents cell := by
  have counted := (scaleRows_eq_ok done).1
  rw [represents.stores.rowCount] at counted
  obtain ⟨_, other, _, otherDone, _, again⟩ := represents.scaleRows counted
  obtain rfl := Except.ok.inj (done.symm.trans otherDone)
  exact ⟨_, again⟩

omit [Scalar α]

/-- Entries are read back exactly when the native shape fits 64 bits. -/
theorem exists_toNative_iff (represents : operator.Represents cell) :
    (∃ native, operator.toNative = .ok native) ↔ operator.FitsWords := by
  constructor
  · rintro ⟨native, done⟩
    obtain ⟨_, _, ⟨rowExtent, columnExtent⟩, _⟩ := toNative_eq_ok_iff.mp done
    rw [← word_eq_ok rowExtent] at rowExtent
    rw [← word_eq_ok columnExtent] at columnExtent
    exact ⟨rowExtent, columnExtent⟩
  · rintro ⟨rowFits, columnFits⟩
    have rows := rowFits
    have columns := columnFits
    simp only [represents.nativeShape] at rows columns
    rw [toNative_of_words represents.stores.rowCount represents.stores.columnsBelow
      (represents.rowSet.nativeWords rows) (represents.columnSet.nativeWords columns), rowFits,
      columnFits]
    exact ⟨_, rfl⟩

/-- What is read back lies inside the native shape, and has the stored values. -/
theorem toNative (represents : operator.Represents cell) {native : NativeEntries α}
    (done : operator.toNative = .ok native) :
    native.shape = operator.nativeShape ∧
    (∀ entry ∈ native.entries, Inside native.shape.1 native.shape.2 entry) ∧
    ∀ row column, valuesAt native.entries row column = (cell row column).toList := by
  have shape : native.shape = operator.nativeShape := by
    obtain ⟨_, _, ⟨rowExtent, columnExtent⟩, _⟩ := toNative_eq_ok_iff.mp done
    exact Prod.ext (word_eq_ok rowExtent).symm (word_eq_ok columnExtent).symm
  rw [represents.stores.toNative done]
  refine ⟨shape, fun entry member => ?_, represents.stores.valuesAt_nativeEntries⟩
  have held := (represents.stores.mem_nativeEntries_iff entry.1 entry.2.1 entry.2.2).mp member
  obtain ⟨row, column⟩ := represents.stores.inside _ _ _ held
  rw [shape, represents.nativeShape]
  exact ⟨represents.rowSet.inside _ row, represents.columnSet.inside _ column⟩

end Entries

end DenseOperator.Represents

/-! ### Products -/

/-- A stored row weighs a field over the columns as its cells do, summed over any different indices
that all columns are among. -/
theorem SparseMatrix.RowStores.weighRow_eq {columns : List Int} (distinct : columns.Nodup)
    {cell : Int → Int → Option Rat} {row : Int} {stored : List (Nat × Rat)}
    (stores : RowStores stored fun number => (columns[number]?).bind (cell row))
    (inside : ∀ column x, cell row column = some x → column ∈ columns) {listed : List Int}
    (listedDistinct : listed.Nodup) (covers : ∀ column ∈ columns, column ∈ listed)
    (f : Int → Rat) : weighRow (fun number => f (columns.getD number 0)) stored =
      (listed.map fun column => f column * (cell row column).getD Scalar.zero).sum := by
  -- The row as native entries, of which all are in this one row.
  let entries := stored.map fun entry => (row, columns.getD entry.1 0, entry.2)
  have own : entries.filter (fun entry => entry.1 = row) = entries := by
    refine List.filter_eq_self.mpr fun entry member => ?_
    obtain ⟨_, _, rfl⟩ := List.mem_map.mp member
    exact decide_eq_true rfl
  have weighed : weighRow (fun number => f (columns.getD number 0)) stored =
      rowTotal f entries row := by
    rw [rowTotal, own, entryTotal, List.map_map]
    rfl
  have known : ∀ entry ∈ entries, entry.2.1 ∈ listed := by
    intro entry member
    obtain ⟨⟨number, x⟩, storedMember, rfl⟩ := List.mem_map.mp member
    obtain ⟨column, found, _⟩ := Option.bind_eq_some_iff.mp
      ((stores.stored number x).mp storedMember)
    have named : columns.getD number 0 = column := by
      rw [List.getD_eq_getElem?_getD, found, Option.getD_some]
    exact named ▸ covers column (List.mem_of_getElem? found)
  rw [weighed, rowTotal_eq_sum_valuesAt listedDistinct known]
  refine congrArg List.sum (List.map_congr_left fun column _ => ?_)
  rw [DenseOperator.valuesAt_storedRow distinct stores inside, if_pos rfl, getD_zero_eq_sum]

namespace DenseOperator

/-- The natural numbers below an extent. -/
def indicesBelow (extent : Int) : List Int := (List.range extent.toNat).map Int.ofNat

theorem nodup_indicesBelow (extent : Int) : (indicesBelow extent).Nodup :=
  List.nodup_range.map fun _ _ => Int.ofNat.inj

theorem mem_indicesBelow {extent native : Int} (natural : 0 ≤ native) (below : native < extent) :
    native ∈ indicesBelow extent := by
  have bound : native.toNat < extent.toNat := by omega
  exact List.mem_map.mpr ⟨native.toNat, List.mem_range.mpr bound, Int.toNat_of_nonneg natural⟩

variable {operator : DenseOperator Rat} {cell : Int → Int → Option Rat}

/-- An operator acts on a field by the sum over all columns. -/
theorem Represents.acts (represents : operator.Represents cell) : operator.Acts fun f row =>
    ((indicesBelow operator.axes.columns.sparseExtent).map fun column =>
      f column * (cell row column).getD Scalar.zero).sum where
  rowsDistinct := represents.rowSet.distinct
  rowsInside := represents.rowSet.inside
  columnsInside := represents.columnSet.inside
  columnCount := represents.stores.columnCount
  columnsBelow := represents.stores.columnsBelow
  rows f := by
    have stores := represents.stores
    have each : List.Forall₂ (fun stored row =>
        weighRow (fun column => f (operator.axes.columns.natives.getD column 0)) stored =
          ((indicesBelow operator.axes.columns.sparseExtent).map fun column =>
            f column * (cell row column).getD Scalar.zero).sum)
        operator.matrix.rows operator.axes.rows.natives := by
      refine stores.rows.flip.imp fun stored row storedRow => ?_
      refine storedRow.weighRow_eq stores.columnsDistinct
        (fun column x held => (stores.inside row column x held).2) (nodup_indicesBelow _)
        (fun column member => ?_) f
      have bounds := represents.columnSet.inside column member
      exact mem_indicesBelow bounds.1 bounds.2
    exact List.forall₂_eq_eq_eq ▸
      List.forall₂_map_left_iff.mpr (List.forall₂_map_right_iff.mpr each)

/-- The product with a vector that covers all columns is the sum over the columns at every row that
the operator touches, and `fill` at all other rows. -/
theorem Represents.apply (represents : operator.Represents cell) (fits : operator.FitsWords)
    (rowsShort : operator.nativeShape.1 < unaffordableLength) (fill : Rat) {vector : List Rat}
    (long : operator.nativeShape.2 ≤ vector.length) :
    ∃ product, operator.apply fill (.ofList vector) = .ok product ∧
      (product.length : Int) = operator.nativeShape.1 ∧
      (∀ row ∈ operator.axes.rows.natives, itemAt product row =
        .ok ((indicesBelow operator.nativeShape.2).map fun column =>
          (cell row column).getD Scalar.zero * vector.getD column.toNat 0).sum) ∧
      ∀ row, 0 ≤ row → row < operator.nativeShape.1 → row ∉ operator.axes.rows.natives →
        itemAt product row = .ok fill := by
  obtain ⟨_, columnFits⟩ := fits
  simp only [represents.nativeShape] at columnFits rowsShort long ⊢
  have words := represents.columnSet.nativeWords columnFits
  obtain ⟨product, done, length, touched, others⟩ := represents.acts.apply fill long
    ⟨(IndexSet.nativeWords_eq_ok_iff.mp words).2, rowsShort⟩ represents.rowSet.natural
  refine ⟨product, done, length, fun row member => ?_, others⟩
  simpa only [mul_comm] using touched row member

end DenseOperator

/-! ### Stored products -/

namespace SparseMatrix

theorem length_scaleRow (factor : Rat) (row : List (Nat × Rat)) :
    (scaleRow factor row).length = row.countP fun entry => factor * entry.2 ≠ 0 := by
  have product : ∀ x : Rat, (Scalar.zero : Rat) + factor * x = factor * x :=
    fun x => zero_add (factor * x)
  unfold scaleRow
  split
  next vanishes => simp [(Scalar.isZero_rat factor).mp vanishes]
  next =>
    rw [← List.countP_reverse]
    simp only [product]
    induction row.reverse with
    | nil => rfl
    | cons entry rest inductionHypothesis =>
        rw [List.filterMap_cons, List.countP_cons]
        by_cases vanishes : factor * entry.2 = 0
        · rw [if_pos ((Scalar.isZero_rat _).mpr vanishes), inductionHypothesis]
          simp [vanishes]
        · rw [if_neg (mt (Scalar.isZero_rat _).mp vanishes), List.length_cons, inductionHypothesis]
          simp [vanishes]

/-- After scaling, as many entries are stored as there are products that do not vanish. -/
theorem entryCount_scaleRows (matrix : SparseMatrix Rat) {factors : List Rat}
    (counted : factors.length = matrix.rows.length) :
    (matrix.scaleRows factors).entryCount =
      matrix.entries.countP fun entry => factors.getD entry.1 0 * entry.2.2 ≠ 0 := by
  have rowwise : factors.zipWith (fun factor row => (scaleRow factor row).length) matrix.rows =
      matrix.rows.zipIdx.map fun item =>
        item.1.countP fun entry => factors.getD item.2 0 * entry.2 ≠ 0 := by
    refine List.ext_getElem (by simp [counted]) fun number bound _ => ?_
    rw [List.length_zipWith] at bound
    have factorBound : number < factors.length := by omega
    simp only [List.getElem_zipWith, length_scaleRow, List.getElem_map, List.getElem_zipIdx,
      Nat.zero_add, List.getD_eq_getElem?_getD, List.getElem?_eq_getElem factorBound,
      Option.getD_some]
  have summed : (matrix.scaleRows factors).entryCount =
      (factors.zipWith (fun factor row => (scaleRow factor row).length) matrix.rows).sum := by
    rw [entryCount, scaleRows, List.sum_eq_foldl, ← List.foldl_map, List.map_zipWith]
  rw [summed, rowwise, entries, List.countP_flatMap]
  refine congrArg List.sum (List.map_congr_left fun item _ => ?_)
  rw [Function.comp_apply, List.countP_map]
  rfl

end SparseMatrix

/-! ### All views at once -/

namespace DenseOperator

/-- An operator comes from another one by factors, one for each dense row: values are multiplied by
the factors of their rows, and as many entries are stored as there are products that do not
vanish. -/
structure ScaledBy (scaled operator : DenseOperator Rat) (factors : List Rat)
    (value : Int → Int → Rat) : Prop where
  axes : scaled.axes = operator.axes
  nativeShape : scaled.nativeShape = operator.nativeShape
  touched : ∀ row number, operator.axes.rows.dense? row = some number → ∀ column : Int,
    scaled.value (.int row) (.int column) = .ok (factors.getD number 0 * value row column)
  untouched : ∀ row, row ∉ operator.axes.rows.natives → ∀ column : Int,
    scaled.value (.int row) (.int column) = .ok 0
  entryCount : scaled.matrix.entryCount =
    operator.matrix.entries.countP fun entry => factors.getD entry.1 0 * entry.2.2 ≠ 0

/-- The views of an operator agree on one function of native row and column. -/
structure Views (operator : DenseOperator Rat) (value : Int → Int → Rat) : Prop where
  single : ∀ row column : Int,
    operator.value (.int row) (.int column) = .ok (value row column)
  reads : (∃ native, operator.toNative = .ok native) ↔ operator.FitsWords
  read : ∀ native, operator.toNative = .ok native → native.shape = operator.nativeShape ∧
    (∀ entry ∈ native.entries, Inside native.shape.1 native.shape.2 entry) ∧
    ∀ row column, (valuesAt native.entries row column).sum = value row column
  product : operator.FitsWords → operator.nativeShape.1 < unaffordableLength →
    ∀ (fill : Rat) (vector : List Rat), operator.nativeShape.2 ≤ vector.length →
      ∃ product, operator.apply fill (.ofList vector) = .ok product ∧
        (product.length : Int) = operator.nativeShape.1 ∧
        (∀ row ∈ operator.axes.rows.natives, itemAt product row =
          .ok ((indicesBelow operator.nativeShape.2).map fun column =>
            value row column * vector.getD column.toNat 0).sum) ∧
        ∀ row, 0 ≤ row → row < operator.nativeShape.1 → row ∉ operator.axes.rows.natives →
          itemAt product row = .ok fill
  scaling : ∀ factors : List Rat, factors.length = operator.axes.rows.natives.length →
    ∃ scaled, operator.scaleRows (.ofList factors) = .ok scaled ∧
      scaled.ScaledBy operator factors value

variable {operator : DenseOperator Rat} {cell : Int → Int → Option Rat}

theorem Represents.scaledBy (represents : operator.Represents cell) {factors : List Rat}
    (counted : factors.length = operator.axes.rows.natives.length) :
    ∃ scaled, operator.scaleRows (.ofList factors) = .ok scaled ∧
      scaled.ScaledBy operator factors fun row column => (cell row column).getD Scalar.zero := by
  have rowsCounted : factors.length = operator.matrix.rows.length :=
    counted.trans represents.stores.rowCount.symm
  obtain ⟨factor, scaled, rfl, done, axes, again⟩ := represents.scaleRows counted
  have values : ∀ row column : Int, scaled.value (.int row) (.int column) =
      .ok (factor row * (cell row column).getD Scalar.zero) := by
    intro row column
    rw [again.stores.value, getD_zero_eq_sum, sum_toList_scaled?, ← getD_zero_eq_sum]
  refine ⟨scaled, done, axes, ?_, fun row number known column => ?_,
    fun row absent column => ?_, ?_⟩
  · rw [again.nativeShape, axes, represents.nativeShape]
  · rw [values, List.getD_eq_getElem?_getD, List.getElem?_map,
      IndexSet.getElem?_of_dense? known]
    rfl
  · have empty : cell row column = none :=
      Option.eq_none_iff_forall_not_mem.mpr fun x held =>
        absent (represents.stores.inside row column x held).1
    rw [values, empty]
    exact congrArg Except.ok (mul_zero _)
  · rw [(scaleRows_eq_ok done).2, SparseMatrix.entryCount_scaleRows _ rowsCounted]

/-- All views of an operator show what it represents. -/
theorem Represents.views (represents : operator.Represents cell) :
    operator.Views fun row column => (cell row column).getD Scalar.zero where
  single row column := represents.stores.value row column
  reads := represents.exists_toNative_iff
  read native done := by
    obtain ⟨shape, inside, values⟩ := represents.toNative done
    refine ⟨shape, inside, fun row column => ?_⟩
    rw [values, getD_zero_eq_sum]
  product fits rowsShort fill _ long := represents.apply fits rowsShort fill long
  scaling _ counted := represents.scaledBy counted

end DenseOperator

end Regrid
