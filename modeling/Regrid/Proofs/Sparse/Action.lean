import Regrid.Proofs.Sparse.Matrix
import Regrid.Proofs.Sparse.Vectors

/-!
Contract: what an operator does to fields over native indices, in exact arithmetic.

Owns:
- the action of an operator, row by row, as a functional on fields;
- the actions of collected entries, of scaled operators and of entries read back;
- the product with a native vector, and when it is answered.

Does not own: what rows and columns mean.
-/

namespace Regrid

open Attempt SparseMatrix

/-- Each row of an operator takes a field over the columns to a number. The rows are different
native indices, and all indices lie inside the extents of their axes. -/
structure DenseOperator.Acts (operator : DenseOperator Rat)
    (action : (Int → Rat) → Int → Rat) : Prop where
  rowsDistinct : operator.axes.rows.natives.Nodup
  rowsInside : ∀ native ∈ operator.axes.rows.natives,
    0 ≤ native ∧ native < operator.axes.rows.sparseExtent
  columnsInside : ∀ native ∈ operator.axes.columns.natives,
    0 ≤ native ∧ native < operator.axes.columns.sparseExtent
  columnCount : operator.matrix.columnCount = operator.axes.columns.natives.length
  columnsBelow : ∀ row ∈ operator.matrix.rows, ∀ entry ∈ row,
    entry.1 < operator.axes.columns.natives.length
  rows : ∀ f, operator.matrix.rows.map
    (weighRow fun column => f (operator.axes.columns.natives.getD column 0)) =
      operator.axes.rows.natives.map (action f)

/-! ### Collected entries -/

/-- Dense entries have the totals of the native ones that they stand for. -/
theorem rowTotal_of_stands {rows columns : List Int} (distinct : rows.Nodup)
    {dense : List (Nat × Nat × Rat)} {native : List (Int × Int × Rat)}
    (stands : List.Forall₂ (Stands rows columns) dense native) {number : Nat} {row : Int}
    (found : rows[number]? = some row) (f : Int → Rat) :
    rowTotal (fun column => f (columns.getD column 0)) dense number = rowTotal f native row := by
  induction stands with
  | nil => rfl
  | @cons denseEntry entry _ _ first _ inductionHypothesis =>
      obtain ⟨rowFound, columnFound, value⟩ := first
      have sameRow : number = denseEntry.1 ↔ row = entry.1 :=
        number_eq_iff distinct rowFound found
      have column : columns.getD denseEntry.2.1 0 = entry.2.1 := by
        rw [List.getD_eq_getElem?_getD, columnFound, Option.getD_some]
      rw [rowTotal_cons, rowTotal_cons, inductionHypothesis, column, value]
      simp only [sameRow]

namespace DenseOperator

variable {operator : DenseOperator Rat} {action : (Int → Rat) → Int → Rat}

/-- An assembled operator acts by the totals of its entries. -/
theorem Assembles.acts {entries : List (Int × Int × Rat)} {rowExtent columnExtent : Int}
    (assembles : operator.Assembles entries rowExtent columnExtent)
    (inside : ∀ entry ∈ entries, Inside rowExtent columnExtent entry) :
    operator.Acts fun f => rowTotal f entries := by
  have stores := assembles.stores
  obtain ⟨rowsExtent, columnsExtent⟩ := assembles.sparseExtents
  constructor
  · exact stores.rowsDistinct
  · intro native member
    obtain ⟨entry, entryMember, rfl⟩ :=
      List.mem_map.mp ((assembles.mem_natives_iff native).1.mp member)
    rw [rowsExtent]
    exact (inside entry entryMember).1
  · intro native member
    obtain ⟨entry, entryMember, rfl⟩ :=
      List.mem_map.mp ((assembles.mem_natives_iff native).2.mp member)
    rw [columnsExtent]
    exact (inside entry entryMember).2
  · exact stores.columnCount
  · exact stores.columnsBelow
  · intro f
    obtain ⟨builder, collects, axes, _, matrix⟩ := assembles.parts
    have stands := stands_zip collects.rows.numbered collects.columns.numbered
    rw [axes, matrix, map_weighRow_assemble]
    refine List.ext_getElem (by simp [SparseBuilder.shaped, Axes.rows]) fun number bound _ => ?_
    rw [List.getElem_map, List.getElem_map, List.getElem_range]
    exact rowTotal_of_stands collects.rows.distinct stands (List.getElem?_eq_getElem _) f

theorem Acts.rowCount (acts : operator.Acts action) :
    operator.matrix.rows.length = operator.axes.rows.natives.length := by
  simpa only [List.length_map] using congrArg List.length (acts.rows fun _ => 0)

theorem Acts.rowSums (acts : operator.Acts action) :
    operator.matrix.rowSums = operator.axes.rows.natives.map (action fun _ => 1) := by
  rw [rowSums_eq]
  exact acts.rows fun _ => 1

/-! ### Scaled operators -/

/-- Scaling the rows of an operator scales its action. -/
theorem Acts.scaleRows (acts : operator.Acts action) (factor : Int → Rat) :
    ∃ scaled, operator.scaleRows (.ofList (operator.axes.rows.natives.map factor)) = .ok scaled ∧
      scaled.axes = operator.axes ∧
      scaled.Acts fun f row => factor row * action f row := by
  have shape : (Tensor.ofList (operator.axes.rows.natives.map factor)).shape =
      [operator.matrix.rowCount] := by
    simp [Tensor.ofList, SparseMatrix.rowCount, acts.rowCount]
  refine ⟨_, (if_neg (by simp [Tensor.rank, Tensor.ofList])).trans (if_pos shape), rfl, ?_⟩
  refine { acts with columnsBelow := ?_, rows := fun f => ?_ }
  · exact column_lt_of_mem_scaleRows acts.columnsBelow _
  · rw [map_weighRow_scaleRows, acts.rows f, Tensor.ofList, List.zipWith_map_left,
      List.zipWith_map_right, List.zipWith_self]

/-! ### Products -/

/-- Vectors can be multiplied: the columns fit 64 bits, and a vector over the rows finds room. -/
structure Applicable {α : Type} (operator : DenseOperator α) : Prop where
  columns : ∀ column ∈ operator.axes.columns.natives, word column = .ok column
  rows : operator.axes.rows.sparseExtent < unaffordableLength

theorem applicable_of_apply {α : Type} [Scalar α] {operator : DenseOperator α} {fill : α}
    {vector : Tensor α} {product : List α} (done : operator.apply fill vector = .ok product) :
    operator.Applicable := by
  obtain ⟨_, gathered, rest⟩ := bind_eq_ok done
  obtain ⟨_, spread⟩ := refuse_eq_ok_iff.mp rest
  obtain ⟨_, _, _, _, words, _⟩ := IndexSet.gather_eq_ok_iff.mp gathered
  exact ⟨(IndexSet.nativeWords_eq_ok_iff.mp words).2, (IndexSet.spread_eq_ok spread).2.2⟩

/-- The product with a vector that covers all columns has the action of the operator at every
row that the operator touches, and `fill` at all other rows. -/
theorem Acts.apply (acts : operator.Acts action) (fill : Rat) {vector : List Rat}
    (long : operator.axes.columns.sparseExtent ≤ vector.length)
    (applicable : operator.Applicable) (rowsNatural : 0 ≤ operator.axes.rows.sparseExtent) :
    ∃ product, operator.apply fill (.ofList vector) = .ok product ∧
      (product.length : Int) = operator.axes.rows.sparseExtent ∧
      (∀ row ∈ operator.axes.rows.natives, itemAt product row =
        .ok (action (fun column => vector.getD column.toNat 0) row)) ∧
      ∀ row, 0 ≤ row → row < operator.axes.rows.sparseExtent →
        row ∉ operator.axes.rows.natives → itemAt product row = .ok fill := by
  let field : Int → Rat := fun column => vector.getD column.toNat 0
  have products : operator.matrix.mulVector (operator.axes.columns.natives.map field) =
      operator.axes.rows.natives.map (action field) := by
    rw [mulVector_eq, ← acts.rows field]
    refine List.map_congr_left fun row rowMember => ?_
    refine congrArg List.sum (List.map_congr_left fun entry member => ?_)
    have bound := acts.columnsBelow row rowMember entry member
    simp only [List.getD_eq_getElem?_getD, List.getElem?_map, List.getElem?_eq_getElem bound]
    rfl
  have counted : (operator.axes.rows.natives.map (action field)).length =
      operator.axes.rows.natives.length := List.length_map _
  have rowSet : operator.axes.rows.Proper := ⟨rowsNatural, acts.rowsDistinct, acts.rowsInside⟩
  have words := IndexSet.nativeWords_eq_ok_iff.mpr ⟨rfl, applicable.columns⟩
  obtain ⟨spread, done, length, each, others⟩ :=
    rowSet.exists_spread fill counted applicable.rows
  refine ⟨spread, ?_, length, fun row member => ?_, fun row natural below untouched => ?_⟩
  · have conforms : ¬ (some operator.axes.columns.natives.length ≠
        some operator.matrix.columnCount ∨ 2 < 1) := by
      simp [acts.columnCount]
    rw [List.length_map, ← products] at done
    simp only [DenseOperator.apply, IndexSet.gather_of_inside 0 long words acts.columnsInside, bind,
      Except.bind, Tensor.rank, List.head?_cons, List.length_cons, List.length_nil, zero_add,
      if_neg conforms, SparseMatrix.rowCount, acts.rowCount, List.drop_one, List.tail_cons]
    exact done
  · exact itemAt_of_natural (acts.rowsInside row member).1
      (each _ (IndexSet.mem_zip_map (action field) member))
  · refine itemAt_of_natural natural (others row.toNat ?_ ?_)
    · omega
    · rwa [Int.toNat_of_nonneg natural]

theorem Acts.exists_apply_iff (acts : operator.Acts action) (fill : Rat) {vector : List Rat}
    (long : operator.axes.columns.sparseExtent ≤ vector.length)
    (rowsNatural : 0 ≤ operator.axes.rows.sparseExtent) :
    (∃ product, operator.apply fill (.ofList vector) = .ok product) ↔ operator.Applicable := by
  constructor
  · rintro ⟨_, done⟩
    exact applicable_of_apply done
  · intro applicable
    obtain ⟨product, done, _⟩ := acts.apply fill long applicable rowsNatural
    exact ⟨product, done⟩

end DenseOperator

/-! ### Totals by position -/

theorem getD_zero_eq_sum (x : Option Rat) : x.getD Scalar.zero = x.toList.sum := by
  cases x with
  | none => rfl
  | some y => exact (add_zero y).symm

theorem sum_toList_sum? (values : List Rat) : (sum? values).toList.sum = values.sum := by
  have steps : ∀ (rest : List Rat) (sum : Option Rat),
      (rest.foldl (fun sum x => some (addOnto sum x)) sum).toList.sum =
        sum.toList.sum + rest.sum := by
    intro rest
    induction rest with
    | nil => simp
    | cons x rest inductionHypothesis =>
        intro sum
        rw [List.foldl_cons, inductionHypothesis, List.sum_cons, ← add_assoc]
        cases sum <;> simp [addOnto]
  rw [sum?, steps values none]
  exact zero_add _

theorem sum_toList_scaled? (factor : Rat) (x : Option Rat) :
    (x.bind (scaled? factor)).toList.sum = factor * x.toList.sum := by
  cases x with
  | none => simp
  | some y =>
      have product : Scalar.zero + factor * y = factor * y := zero_add _
      simp only [Option.bind_some, scaled?, Scalar.isZero_rat, product]
      split
      next none => simp [none]
      next =>
        split
        next none => simp [none]
        next => simp

/-- An operator of collected entries has at each position the sum of the entries there. -/
theorem DenseOperator.Assembles.value {operator : DenseOperator Rat}
    {entries : List (Int × Int × Rat)} {rowExtent columnExtent : Int}
    (assembles : operator.Assembles entries rowExtent columnExtent) (row column : Int) :
    operator.value (.int row) (.int column) = .ok (valuesAt entries row column).sum := by
  rw [assembles.stores.value, getD_zero_eq_sum, sum_toList_sum?]

/-- The total of a row is that over the columns, taken once each. -/
theorem rowTotal_eq_sum_valuesAt {columns : List Int} (distinct : columns.Nodup)
    {entries : List (Int × Int × Rat)} (listed : ∀ entry ∈ entries, entry.2.1 ∈ columns)
    (f : Int → Rat) (row : Int) : rowTotal f entries row =
      (columns.map fun column => f column * (valuesAt entries row column).sum).sum := by
  induction entries with
  | nil => exact (List.sum_eq_zero (by simp [valuesAt])).symm
  | cons entry rest inductionHypothesis =>
      have later := inductionHypothesis fun other member => listed other (by simp [member])
      have columnwise : (columns.map fun column =>
          f column * (valuesAt (entry :: rest) row column).sum) = columns.map fun column =>
            (if column = entry.2.1 then if row = entry.1 then f column * entry.2.2 else 0 else 0) +
              f column * (valuesAt rest row column).sum := by
        refine List.map_congr_left fun column _ => ?_
        rw [valuesAt_cons, List.sum_append, mul_add]
        by_cases sameRow : row = entry.1
        · by_cases sameColumn : column = entry.2.1
          · simp [sameRow, sameColumn]
          · simp [sameColumn, Ne.symm sameColumn]
        · simp [sameRow, Ne.symm sameRow]
      rw [rowTotal_cons, later, columnwise, List.sum_map_add, sum_map_ite_of_nodup distinct,
        if_pos (listed entry (by simp))]

/-- Entries whose sums at all positions of a row are multiples of other sums have that multiple
of the total. -/
theorem rowTotal_eq_mul {first second : List (Int × Int × Rat)} {row : Int} {factor : Rat}
    (scaled : ∀ column, (valuesAt first row column).sum =
      factor * (valuesAt second row column).sum) (f : Int → Rat) :
    rowTotal f first row = factor * rowTotal f second row := by
  let columns := ((first ++ second).map (·.2.1)).dedup
  have distinct : columns.Nodup := List.nodup_dedup _
  have listed : ∀ entry ∈ first ++ second, entry.2.1 ∈ columns := fun entry member =>
    List.mem_dedup.mpr (List.mem_map.mpr ⟨entry, member, rfl⟩)
  rw [rowTotal_eq_sum_valuesAt distinct fun entry member => listed entry (by simp [member]),
    rowTotal_eq_sum_valuesAt distinct fun entry member => listed entry (by simp [member]),
    ← List.sum_map_mul_left]
  refine congrArg List.sum (List.map_congr_left fun column _ => ?_)
  rw [scaled, mul_left_comm]

end Regrid
