import Regrid.Proofs.Array.Position
import Regrid.Proofs.Sparse.Builder
import Regrid.Proofs.Sparse.Rows
import Regrid.Proofs.Value

/-!
Contract: what an operator stores at native indices, in any arithmetic.

Owns:
- an operator as a partial function of native row and column;
- collected entries, scaling, single values and entries read back in these terms.

Does not own: products with vectors, and laws of the arithmetic.
-/

namespace Regrid

open Attempt SparseMatrix

variable {α : Type}

/-- A dense entry stands for a native one. -/
def Stands (rows columns : List Int) (dense : Nat × Nat × α) (native : Int × Int × α) : Prop :=
  rows[dense.1]? = some native.1 ∧ columns[dense.2.1]? = some native.2.1 ∧ dense.2.2 = native.2.2

theorem stands_zip {rows columns : List Int} {entries : List (Int × Int × α)}
    {denseRows denseColumns : List Nat}
    (rowNumbers : List.Forall₂ (fun number native => rows[number]? = some native) denseRows
      (entries.map (·.1)))
    (columnNumbers : List.Forall₂ (fun number native => columns[number]? = some native)
      denseColumns (entries.map (·.2.1))) :
    List.Forall₂ (Stands rows columns)
      (denseRows.zip (denseColumns.zip (entries.map (·.2.2)))) entries := by
  induction entries generalizing denseRows denseColumns with
  | nil =>
      cases rowNumbers
      exact .nil
  | cons entry rest inductionHypothesis =>
      cases rowNumbers with
      | cons firstRow laterRows =>
          cases columnNumbers with
          | cons firstColumn laterColumns =>
              exact .cons ⟨firstRow, firstColumn, rfl⟩ (inductionHypothesis laterRows laterColumns)

theorem number_eq_iff {natives : List Int} (distinct : natives.Nodup) {number other : Nat}
    {native second : Int} (found : natives[number]? = some native)
    (otherFound : natives[other]? = some second) : other = number ↔ second = native := by
  constructor
  · rintro rfl
    exact Option.some.inj (otherFound.symm.trans found)
  · rintro rfl
    exact (List.getElem?_inj (List.getElem?_eq_some_iff.mp otherFound).1 distinct).mp
      (otherFound.trans found.symm)

/-- Dense entries have the values of the native ones that they stand for. -/
theorem valuesAt_of_stands {rows columns : List Int} (rowsDistinct : rows.Nodup)
    (columnsDistinct : columns.Nodup) {dense : List (Nat × Nat × α)}
    {native : List (Int × Int × α)} (stands : List.Forall₂ (Stands rows columns) dense native)
    {number place : Nat} {row column : Int} (rowFound : rows[number]? = some row)
    (columnFound : columns[place]? = some column) :
    valuesAt dense number place = valuesAt native row column := by
  induction stands with
  | nil => rfl
  | cons first _ inductionHypothesis =>
      obtain ⟨firstRow, firstColumn, value⟩ := first
      rw [valuesAt_cons, valuesAt_cons, inductionHypothesis, value]
      simp only [number_eq_iff rowsDistinct rowFound firstRow,
        number_eq_iff columnsDistinct columnFound firstColumn]

/-- The rows of an operator, in the order of their native indices, store a partial function of
the native column. All indices of an axis are different. -/
structure DenseOperator.Stores (operator : DenseOperator α) (cell : Int → Int → Option α) :
    Prop where
  rowsDistinct : operator.axes.rows.natives.Nodup
  columnsDistinct : operator.axes.columns.natives.Nodup
  columnCount : operator.matrix.columnCount = operator.axes.columns.natives.length
  rows : List.Forall₂ (fun native row => RowStores row fun number =>
    (operator.axes.columns.natives[number]?).bind (cell native))
      operator.axes.rows.natives operator.matrix.rows
  inside : ∀ row column x, cell row column = some x →
    row ∈ operator.axes.rows.natives ∧ column ∈ operator.axes.columns.natives

variable [Scalar α]

/-! ### Collected entries -/

/-- Rows assembled from dense entries store the sums of the native ones. -/
theorem rowStores_assemble {rows columns : List Int} (rowsDistinct : rows.Nodup)
    (columnsDistinct : columns.Nodup) {dense : List (Nat × Nat × α)}
    {native : List (Int × Int × α)} (stands : List.Forall₂ (Stands rows columns) dense native)
    (columnCount : Nat) :
    List.Forall₂ (fun row stored => RowStores stored fun number =>
      (columns[number]?).bind fun column => sum? (valuesAt native row column))
        rows (assemble rows.length columnCount dense).rows := by
  apply List.forall₂_iff_get.mpr
  refine ⟨by simp [assemble], fun number bound _ => ?_⟩
  have rowFound : rows[number]? = some (rows.get ⟨number, bound⟩) := List.getElem?_eq_getElem bound
  have stores := rowStores_assembled dense number
  have sameCells : ∀ place, ((columns[place]?).bind fun column =>
      sum? (valuesAt native (rows.get ⟨number, bound⟩) column)) =
        sum? (valuesAt dense number place) := by
    intro place
    cases columnFound : columns[place]? with
    | some column =>
        rw [valuesAt_of_stands rowsDistinct columnsDistinct stands rowFound columnFound]
        rfl
    | none =>
        rw [valuesAt_eq_nil]
        · rfl
        · intro entry member _ same
          obtain ⟨_, _, _, found, _⟩ := exists_answer_of_mem stands member
          rw [same, columnFound] at found
          cases found
  rw [← funext sameCells] at stores
  simpa only [assemble, List.get_eq_getElem, List.getElem_map, List.getElem_range] using stores

/-- A builder is assembled when it has as many rows and columns as values. -/
theorem SparseBuilder.toOperator_eq_ok {builder : SparseBuilder α} {operator : DenseOperator α}
    (done : builder.toOperator = .ok operator) :
    (builder.rows.length = builder.values.length ∧
      builder.columns.length = builder.values.length) ∧
    operator =
      { matrix := .assemble builder.axes.rows.natives.length builder.axes.columns.natives.length
          (builder.rows.zip (builder.columns.zip builder.values))
        axes := builder.axes
        nativeShape := (builder.axes.rows.sparseExtent, builder.axes.columns.sparseExtent) } := by
  unfold SparseBuilder.toOperator at done
  simp only [] at done
  split at done
  next counted =>
    cases done
    exact ⟨counted, rfl⟩
  next => cases done

/-- An operator is assembled from entries, in a native shape. -/
def DenseOperator.Assembles (operator : DenseOperator α) (entries : List (Int × Int × α))
    (rowExtent columnExtent : Int) : Prop :=
  ∃ builder : SparseBuilder α, builder.Collects entries ∧
    (builder.shaped rowExtent columnExtent).toOperator = .ok operator

/-- Whatever a builder has collected can be assembled. -/
theorem SparseBuilder.Collects.exists_toOperator {builder : SparseBuilder α}
    {entries : List (Int × Int × α)} (collects : builder.Collects entries)
    (rowExtent columnExtent : Int) :
    ∃ operator, (builder.shaped rowExtent columnExtent).toOperator = .ok operator ∧
      operator.Assembles entries rowExtent columnExtent := by
  have rowsLength := collects.rows.numbered.length_eq
  have columnsLength := collects.columns.numbered.length_eq
  have lengths : builder.rows.length = builder.values.length ∧
      builder.columns.length = builder.values.length := by
    rw [collects.values, rowsLength, columnsLength]
    simp
  exact ⟨_, if_pos lengths, builder, collects, if_pos lengths⟩

namespace DenseOperator

variable {operator : DenseOperator α} {entries : List (Int × Int × α)}
  {rowExtent columnExtent : Int}

/-- The parts of an assembled operator. -/
theorem Assembles.parts (assembles : operator.Assembles entries rowExtent columnExtent) :
    ∃ builder : SparseBuilder α, builder.Collects entries ∧
      operator.axes = (builder.shaped rowExtent columnExtent).axes ∧
      operator.nativeShape = (rowExtent, columnExtent) ∧
      operator.matrix = .assemble builder.axes.rows.natives.length
        builder.axes.columns.natives.length
        (builder.rows.zip (builder.columns.zip (entries.map (·.2.2)))) := by
  obtain ⟨builder, collects, done⟩ := assembles
  obtain ⟨_, rfl⟩ := SparseBuilder.toOperator_eq_ok done
  rw [← collects.values]
  exact ⟨builder, collects, rfl, rfl, rfl⟩

theorem Assembles.nativeShape (assembles : operator.Assembles entries rowExtent columnExtent) :
    operator.nativeShape = (rowExtent, columnExtent) := by
  obtain ⟨_, _, _, shape, _⟩ := assembles.parts
  exact shape

theorem Assembles.sparseExtents (assembles : operator.Assembles entries rowExtent columnExtent) :
    operator.axes.rows.sparseExtent = rowExtent ∧
      operator.axes.columns.sparseExtent = columnExtent := by
  obtain ⟨_, _, axes, _⟩ := assembles.parts
  rw [axes]
  exact ⟨rfl, rfl⟩

/-- The rows and columns of an assembled operator are those that its entries have. -/
theorem Assembles.mem_natives_iff (assembles : operator.Assembles entries rowExtent columnExtent)
    (native : Int) :
    (native ∈ operator.axes.rows.natives ↔ native ∈ entries.map (·.1)) ∧
      (native ∈ operator.axes.columns.natives ↔ native ∈ entries.map (·.2.1)) := by
  obtain ⟨builder, collects, axes, _⟩ := assembles.parts
  rw [axes]
  exact ⟨collects.rows.mem_iff, collects.columns.mem_iff⟩

/-- An assembled operator stores the sums of its entries. -/
theorem Assembles.stores (assembles : operator.Assembles entries rowExtent columnExtent) :
    operator.Stores fun row column => sum? (valuesAt entries row column) := by
  obtain ⟨builder, collects, axes, _, matrix⟩ := assembles.parts
  have stands := stands_zip collects.rows.numbered collects.columns.numbered
  constructor
  · rw [axes]
    exact collects.rows.distinct
  · rw [axes]
    exact collects.columns.distinct
  · rw [axes, matrix]
    rfl
  · rw [axes, matrix]
    exact rowStores_assemble collects.rows.distinct collects.columns.distinct stands _
  · intro row column x held
    have some : valuesAt entries row column ≠ [] := by
      intro none
      rw [(sum?_eq_none_iff _).mpr none] at held
      cases held
    obtain ⟨y, member⟩ := List.exists_mem_of_ne_nil _ some
    have listed := mem_valuesAt.mp member
    exact ⟨(assembles.mem_natives_iff row).1.mpr (List.mem_map_of_mem listed),
      (assembles.mem_natives_iff column).2.mpr (List.mem_map.mpr ⟨_, listed, rfl⟩)⟩

end DenseOperator

/-- Native indices are read as they are if each of them fits 64 bits. -/
theorem IndexSet.nativeWords_eq_ok_iff {set : IndexSet} {words : List Int} :
    set.nativeWords = .ok words ↔
      words = set.natives ∧ ∀ native ∈ set.natives, word native = .ok native := by
  rw [nativeWords, mapM_eq_ok_iff]
  constructor
  · intro each
    have same : set.natives = words := by
      rw [← List.forall₂_eq_eq_eq]
      exact each.imp fun _ _ read => word_eq_ok read
    subst same
    exact ⟨rfl, List.forall₂_same.mp each⟩
  · rintro ⟨rfl, each⟩
    exact List.forall₂_same.mpr each

namespace DenseOperator

variable {operator : DenseOperator α} {cell : Int → Int → Option α}

omit [Scalar α] in
theorem Stores.rowCount (stores : operator.Stores cell) :
    operator.matrix.rows.length = operator.axes.rows.natives.length :=
  stores.rows.length_eq.symm

/-! ### Scaled operators -/

/-- Items in the order of different indices are the values of a function of the index. -/
theorem exists_map_eq_of_nodup {natives : List Int} (distinct : natives.Nodup)
    {items : List α} (counted : items.length = natives.length) :
    ∃ f : Int → α, natives.map f = items := by
  refine ⟨fun native => items.getD (natives.idxOf native) Scalar.zero, ?_⟩
  refine List.ext_getElem (by simp [counted]) fun place bound inside => ?_
  rw [List.length_map] at bound
  rw [List.getElem_map, distinct.idxOf_getElem, List.getD_eq_getElem?_getD,
    List.getElem?_eq_getElem inside, Option.getD_some]

/-- Scaling the rows of an operator scales what it stores. -/
theorem Stores.scaleRows (stores : operator.Stores cell) (factor : Int → α) :
    ∃ scaled, operator.scaleRows (.ofList (operator.axes.rows.natives.map factor)) = .ok scaled ∧
      scaled.axes = operator.axes ∧ scaled.nativeShape = operator.nativeShape ∧
      scaled.Stores fun row column => (cell row column).bind (scaled? (factor row)) := by
  have shape : (Tensor.ofList (operator.axes.rows.natives.map factor)).shape =
      [operator.matrix.rowCount] := by
    simp [Tensor.ofList, SparseMatrix.rowCount, stores.rowCount]
  refine ⟨_, (if_neg (by simp [Tensor.rank, Tensor.ofList])).trans (if_pos shape), rfl, rfl, ?_⟩
  refine { stores with rows := ?_, inside := ?_ }
  · have each := stores.rows
    simp only [SparseMatrix.scaleRows, Tensor.ofList]
    generalize operator.axes.rows.natives = natives at each
    generalize operator.matrix.rows = rows at each
    induction each with
    | nil => exact .nil
    | @cons native _ _ _ first _ inductionHypothesis =>
        refine .cons ?_ inductionHypothesis
        have scaled := first.scaleRow (factor native)
        simp only [Option.bind_assoc] at scaled
        exact scaled
  · intro row column x held
    obtain ⟨y, known, _⟩ := Option.bind_eq_some_iff.mp held
    exact stores.inside row column y known

/-- Any factors, one for each row, can be used. -/
theorem Stores.exists_scaleRows (stores : operator.Stores cell) {factors : List α}
    (counted : factors.length = operator.matrix.rows.length) :
    ∃ scaled, operator.scaleRows (.ofList factors) = .ok scaled := by
  rw [stores.rowCount] at counted
  obtain ⟨factor, rfl⟩ := exists_map_eq_of_nodup stores.rowsDistinct counted
  obtain ⟨scaled, done, _⟩ := stores.scaleRows factor
  exact ⟨scaled, done⟩

/-- Factors that are used are one for each row, and change nothing but the matrix. -/
theorem scaleRows_eq_ok {factors : List α} {scaled : DenseOperator α}
    (done : operator.scaleRows (.ofList factors) = .ok scaled) :
    factors.length = operator.matrix.rows.length ∧
      scaled = { operator with matrix := operator.matrix.scaleRows factors } := by
  unfold DenseOperator.scaleRows at done
  split at done
  next => cases done
  next =>
    split at done
    next shape =>
      cases done
      exact ⟨List.head_eq_of_cons_eq shape, rfl⟩
    next => cases done

/-! ### Entries read back -/

omit [Scalar α]

/-- The stored entries under their native indices. -/
def nativeEntries (operator : DenseOperator α) : List (Int × Int × α) :=
  operator.matrix.entries.map fun entry =>
    (operator.axes.rows.natives.getD entry.1 0, operator.axes.columns.natives.getD entry.2.1 0,
      entry.2.2)

theorem nativeEntries_eq_flatMap
    (rowCount : operator.matrix.rows.length = operator.axes.rows.natives.length) :
    operator.nativeEntries = (operator.axes.rows.natives.zip operator.matrix.rows).flatMap
      fun pair => pair.2.map fun stored =>
        (pair.1, operator.axes.columns.natives.getD stored.1 0, stored.2) := by
  have numbered : operator.axes.rows.natives.zip operator.matrix.rows =
      operator.matrix.rows.zipIdx.map fun entry =>
        (operator.axes.rows.natives.getD entry.2 0, entry.1) := by
    refine List.ext_getElem (by simp [rowCount]) fun place bound _ => ?_
    rw [List.length_zip] at bound
    have inside : place < operator.axes.rows.natives.length := by omega
    simp [List.getElem?_eq_getElem inside]
  rw [numbered]
  simp only [nativeEntries, SparseMatrix.entries, List.map_flatMap, List.flatMap_map, List.map_map]
  rfl

theorem valuesAt_storedRow {columns : List Int} (distinct : columns.Nodup) {native : Int}
    {stored : List (Nat × α)} (stores : RowStores stored fun number =>
      (columns[number]?).bind (cell native))
    (inside : ∀ column x, cell native column = some x → column ∈ columns) (row column : Int) :
    valuesAt (stored.map fun entry => (native, columns.getD entry.1 0, entry.2)) row column =
      if native = row then (cell native column).toList else [] := by
  by_cases here : native = row
  · have within : ∀ entry ∈ stored, ∃ c, columns[entry.1]? = some c := by
      intro entry member
      obtain ⟨c, found, _⟩ := Option.bind_eq_some_iff.mp ((stores.stored _ _).mp member)
      exact ⟨c, found⟩
    rw [if_pos here, valuesAt, List.filter_map, List.map_map]
    by_cases known : column ∈ columns
    · obtain ⟨number, bound, rfl⟩ := List.mem_iff_getElem.mp known
      have numberFound : columns[number]? = some columns[number] := List.getElem?_eq_getElem bound
      have values := stores.values number
      rw [numberFound, Option.bind_some] at values
      rw [← values]
      congr 1
      refine List.filter_congr fun entry member => ?_
      obtain ⟨c, found⟩ := within entry member
      simp [here, found, number_eq_iff distinct numberFound found]
    · have absent : cell native column = none :=
        Option.eq_none_iff_forall_not_mem.mpr fun x held => known (inside column x held)
      rw [absent, Option.toList_none, List.map_eq_nil_iff, List.filter_eq_nil_iff]
      intro entry member same
      obtain ⟨c, found⟩ := within entry member
      simp only [Function.comp_apply, List.getD_eq_getElem?_getD, found, Option.getD_some,
        decide_eq_true_eq] at same
      exact known (same.2 ▸ List.mem_of_getElem? found)
  · rw [if_neg here, valuesAt_eq_nil]
    intro entry member same
    obtain ⟨_, _, rfl⟩ := List.mem_map.mp member
    exact absurd same here

theorem flatMap_ite_of_nodup {τ : Type} {natives : List Int} (distinct : natives.Nodup) (row : Int)
    (values : List τ) : (natives.flatMap fun native => if native = row then values else []) =
      if row ∈ natives then values else [] := by
  induction natives with
  | nil => rfl
  | cons native rest inductionHypothesis =>
      obtain ⟨new, others⟩ := List.nodup_cons.mp distinct
      rw [List.flatMap_cons, inductionHypothesis others]
      by_cases here : native = row
      · subst here
        simp [new]
      · simp [here, Ne.symm here]

/-- The entries read back have one value at each position where something is stored. -/
theorem Stores.valuesAt_nativeEntries (stores : operator.Stores cell) (row column : Int) :
    valuesAt operator.nativeEntries row column = (cell row column).toList := by
  have each : ∀ pair ∈ operator.axes.rows.natives.zip operator.matrix.rows,
      valuesAt (pair.2.map fun entry =>
        (pair.1, operator.axes.columns.natives.getD entry.1 0, entry.2)) row column =
          if pair.1 = row then (cell row column).toList else [] := by
    intro pair member
    have stored := (List.forall₂_iff_zip.mp stores.rows).2 member
    rw [valuesAt_storedRow stores.columnsDistinct stored
      (fun c x held => (stores.inside _ c x held).2)]
    by_cases here : pair.1 = row
    · rw [if_pos here, if_pos here, here]
    · rw [if_neg here, if_neg here]
  have natives : (operator.axes.rows.natives.zip operator.matrix.rows).map (·.1) =
      operator.axes.rows.natives := List.map_fst_zip (Nat.le_of_eq stores.rowCount.symm)
  have collapsed := flatMap_ite_of_nodup stores.rowsDistinct row (cell row column).toList
  rw [← natives, List.flatMap_map, natives] at collapsed
  rw [nativeEntries_eq_flatMap stores.rowCount, valuesAt_flatMap, List.flatMap_congr each,
    collapsed]
  by_cases known : row ∈ operator.axes.rows.natives
  · rw [if_pos known]
  · have absent : cell row column = none :=
      Option.eq_none_iff_forall_not_mem.mpr fun x held => known (stores.inside row column x held).1
    rw [if_neg known, absent]
    rfl

/-- An entry is read back exactly where its value is stored. -/
theorem Stores.mem_nativeEntries_iff (stores : operator.Stores cell) (row column : Int) (x : α) :
    (row, column, x) ∈ operator.nativeEntries ↔ cell row column = some x := by
  rw [← mem_valuesAt, stores.valuesAt_nativeEntries, Option.mem_toList]

/-- Scaling makes up no entries. -/
theorem Stores.exists_of_mem_scaleRows [Scalar α] (stores : operator.Stores cell)
    {factors : List α} {scaled : DenseOperator α}
    (done : operator.scaleRows (.ofList factors) = .ok scaled) {entry : Int × Int × α}
    (member : entry ∈ scaled.nativeEntries) : ∃ x, cell entry.1 entry.2.1 = some x := by
  have counted := (scaleRows_eq_ok done).1
  rw [stores.rowCount] at counted
  obtain ⟨factor, rfl⟩ := exists_map_eq_of_nodup stores.rowsDistinct counted
  obtain ⟨other, otherDone, _, _, stored⟩ := stores.scaleRows factor
  obtain rfl := Except.ok.inj (done.symm.trans otherDone)
  have held := (stored.mem_nativeEntries_iff entry.1 entry.2.1 entry.2.2).mp member
  obtain ⟨x, known, _⟩ := Option.bind_eq_some_iff.mp held
  exact ⟨x, known⟩

theorem mem_entries {matrix : SparseMatrix α} {entry : Nat × Nat × α}
    (member : entry ∈ matrix.entries) :
    entry.1 < matrix.rows.length ∧ ∃ row ∈ matrix.rows, (entry.2.1, entry.2.2) ∈ row := by
  obtain ⟨⟨row, r⟩, rowMember, entryMember⟩ := List.mem_flatMap.mp member
  obtain ⟨⟨c, x⟩, stored, rfl⟩ := List.mem_map.mp entryMember
  have found := List.mem_zipIdx_iff_getElem?.mp rowMember
  exact ⟨(List.getElem?_eq_some_iff.mp found).1, row, List.mem_of_getElem? found, stored⟩

/-- Native indices that fit 64 bits are read back as they are. -/
theorem toNative_of_words
    (rowCount : operator.matrix.rows.length = operator.axes.rows.natives.length)
    (columnsBelow : ∀ row ∈ operator.matrix.rows, ∀ entry ∈ row,
      entry.1 < operator.axes.columns.natives.length)
    (rowWords : operator.axes.rows.nativeWords = .ok operator.axes.rows.natives)
    (columnWords : operator.axes.columns.nativeWords = .ok operator.axes.columns.natives) :
    operator.toNative = do
      return ⟨(← word operator.nativeShape.1, ← word operator.nativeShape.2),
        operator.nativeEntries⟩ := by
  have read : ∀ {natives : List Int} {place : Nat}, place < natives.length →
      itemAt natives (place : Int) = .ok (natives.getD place 0) := by
    intro natives place bound
    refine itemAt_of_natural (by omega) ?_
    rw [Int.toNat_natCast, List.getD_eq_getElem?_getD, List.getElem?_eq_getElem bound]
    rfl
  have each : operator.matrix.entries.mapM (fun entry => do
      return (← itemAt operator.axes.rows.natives entry.1,
        ← itemAt operator.axes.columns.natives entry.2.1, entry.2.2)) =
      .ok operator.nativeEntries := by
    refine (mapM_eq_ok_iff ..).mpr (List.forall₂_map_right_iff.mpr (List.forall₂_same.mpr ?_))
    intro entry member
    obtain ⟨rowBound, row, rowMember, stored⟩ := mem_entries member
    rw [rowCount] at rowBound
    rw [read rowBound, read (columnsBelow row rowMember _ stored)]
    rfl
  rw [DenseOperator.toNative, rowWords, columnWords]
  show (do
    let entries ← operator.matrix.entries.mapM (fun entry : Nat × Nat × α => do
      return (← itemAt operator.axes.rows.natives entry.1,
        ← itemAt operator.axes.columns.natives entry.2.1, entry.2.2))
    return ⟨(← word operator.nativeShape.1, ← word operator.nativeShape.2), entries⟩ :
      Except Error (NativeEntries α)) = _
  rw [each]
  rfl

theorem Stores.columnsBelow (stores : operator.Stores cell) :
    ∀ row ∈ operator.matrix.rows, ∀ entry ∈ row,
      entry.1 < operator.axes.columns.natives.length := by
  intro row member entry entryMember
  obtain ⟨native, _, stored⟩ := exists_item_of_mem stores.rows member
  obtain ⟨column, found, _⟩ := Option.bind_eq_some_iff.mp
    ((stored.stored entry.1 entry.2).mp entryMember)
  exact (List.getElem?_eq_some_iff.mp found).1

/-- Whatever is read back are the stored entries. -/
theorem Stores.toNative (stores : operator.Stores cell) {native : NativeEntries α}
    (done : operator.toNative = .ok native) : native.entries = operator.nativeEntries := by
  obtain ⟨rows, rowWords, rest⟩ := bind_eq_ok done
  obtain ⟨columns, columnWords, _⟩ := bind_eq_ok rest
  obtain ⟨rfl, _⟩ := IndexSet.nativeWords_eq_ok_iff.mp rowWords
  obtain ⟨rfl, _⟩ := IndexSet.nativeWords_eq_ok_iff.mp columnWords
  rw [toNative_of_words stores.rowCount stores.columnsBelow rowWords columnWords] at done
  obtain ⟨_, _, rest⟩ := bind_eq_ok done
  obtain ⟨_, _, same⟩ := bind_eq_ok rest
  cases same
  rfl

/-- The entries of a scaled operator stand where entries were assembled. -/
theorem Assembles.exists_of_mem_scaleRows [Scalar α] {entries : List (Int × Int × α)}
    {rowExtent columnExtent : Int} (assembles : operator.Assembles entries rowExtent columnExtent)
    {factors : List α} {scaled : DenseOperator α}
    (done : operator.scaleRows (.ofList factors) = .ok scaled) {entry : Int × Int × α}
    (member : entry ∈ scaled.nativeEntries) : ∃ x, (entry.1, entry.2.1, x) ∈ entries := by
  obtain ⟨x, known⟩ := assembles.stores.exists_of_mem_scaleRows done member
  have some : valuesAt entries entry.1 entry.2.1 ≠ [] := by
    intro none
    rw [(sum?_eq_none_iff _).mpr none] at known
    cases known
  obtain ⟨y, listed⟩ := List.exists_mem_of_ne_nil _ some
  exact ⟨y, mem_valuesAt.mp listed⟩

/-- An entry is read back as the native one that it stands for. -/
theorem nativeEntry_eq_ok_iff {rows columns : List Int} {entry : Nat × Nat × α}
    {answer : Int × Int × α} :
    (do return (← itemAt rows entry.1, ← itemAt columns entry.2.1, entry.2.2)) =
      Except.ok answer ↔ Stands rows columns entry answer := by
  simp only [bind_eq_ok_iff, itemAt_natCast_eq_ok_iff, Stands]
  constructor
  · rintro ⟨row, rowFound, column, columnFound, same⟩
    cases same
    exact ⟨rowFound, columnFound, rfl⟩
  · rintro ⟨rowFound, columnFound, value⟩
    exact ⟨_, rowFound, _, columnFound, by rw [value]; rfl⟩

/-- Entries are read back when all native indices and the native shape fit 64 bits. -/
theorem toNative_eq_ok_iff {native : NativeEntries α} :
    operator.toNative = .ok native ↔
      (∀ index ∈ operator.axes.rows.natives, word index = .ok index) ∧
      (∀ index ∈ operator.axes.columns.natives, word index = .ok index) ∧
      (word operator.nativeShape.1 = .ok native.shape.1 ∧
        word operator.nativeShape.2 = .ok native.shape.2) ∧
      List.Forall₂ (Stands operator.axes.rows.natives operator.axes.columns.natives)
        operator.matrix.entries native.entries := by
  constructor
  · intro done
    obtain ⟨rows, rowWords, done⟩ := bind_eq_ok done
    obtain ⟨columns, columnWords, done⟩ := bind_eq_ok done
    obtain ⟨rfl, rowsFit⟩ := IndexSet.nativeWords_eq_ok_iff.mp rowWords
    obtain ⟨rfl, columnsFit⟩ := IndexSet.nativeWords_eq_ok_iff.mp columnWords
    obtain ⟨entries, read, done⟩ := bind_eq_ok done
    obtain ⟨rowExtent, rowExtentFits, done⟩ := bind_eq_ok done
    obtain ⟨columnExtent, columnExtentFits, done⟩ := bind_eq_ok done
    cases done
    exact ⟨rowsFit, columnsFit, ⟨rowExtentFits, columnExtentFits⟩,
      ((mapM_eq_ok_iff ..).mp read).imp fun _ _ => nativeEntry_eq_ok_iff.mp⟩
  · rintro ⟨rowsFit, columnsFit, ⟨rowExtentFits, columnExtentFits⟩, stands⟩
    have read := (mapM_eq_ok_iff ..).mpr (stands.imp fun _ _ => nativeEntry_eq_ok_iff.mpr)
    unfold toNative
    rw [IndexSet.nativeWords_eq_ok_iff.mpr ⟨rfl, rowsFit⟩,
      IndexSet.nativeWords_eq_ok_iff.mpr ⟨rfl, columnsFit⟩]
    refine bind_eq_ok_iff.mpr ⟨_, rfl, bind_eq_ok_iff.mpr ⟨_, rfl,
      bind_eq_ok_iff.mpr ⟨_, read, ?_⟩⟩⟩
    rw [rowExtentFits, columnExtentFits]
    rfl

/-! ### Single values -/

variable [Scalar α]

omit [Scalar α] in
theorem member?_int (set : IndexSet) (native : Int) :
    set.member? (.int native) = .ok (if native ∈ set.natives then some native else none) := by
  by_cases known : native ∈ set.natives <;>
    simp [IndexSet.member?, known, bind, Except.bind, pure, Except.pure, Option.filter]

omit [Scalar α] in
theorem toDense_of_mem {set : IndexSet} {native : Int} (known : native ∈ set.natives) :
    ∃ number, set.toDense native = .ok number ∧ set.natives[number]? = some native := by
  cases found : set.dense? native with
  | none => exact absurd known (IndexSet.not_mem_of_dense? found)
  | some number =>
      exact ⟨number, by rw [IndexSet.toDense, found], IndexSet.getElem?_of_dense? found⟩

/-- The value at native indices is what is stored there, and zero where nothing is. -/
theorem Stores.value (stores : operator.Stores cell) (row column : Int) :
    operator.value (.int row) (.int column) = .ok ((cell row column).getD Scalar.zero) := by
  have absent : (row ∉ operator.axes.rows.natives ∨ column ∉ operator.axes.columns.natives) →
      cell row column = none := by
    intro outside
    apply Option.eq_none_iff_forall_not_mem.mpr
    intro x held
    have inside := stores.inside row column x held
    exact outside.elim (fun no => no inside.1) (fun no => no inside.2)
  unfold DenseOperator.value
  by_cases rowKnown : row ∈ operator.axes.rows.natives
  · by_cases columnKnown : column ∈ operator.axes.columns.natives
    · obtain ⟨r, rowDense, rowFound⟩ := toDense_of_mem rowKnown
      obtain ⟨c, columnDense, columnFound⟩ := toDense_of_mem columnKnown
      have rowBound : r < operator.matrix.rowCount := by
        rw [SparseMatrix.rowCount, stores.rowCount]
        exact (List.getElem?_eq_some_iff.mp rowFound).1
      have columnBound : c < operator.matrix.columnCount := by
        rw [stores.columnCount]
        exact (List.getElem?_eq_some_iff.mp columnFound).1
      have entry : operator.matrix.entry? r c = cell row column := by
        have rowInside : r < operator.matrix.rows.length := rowBound
        have nativeInside := (List.getElem?_eq_some_iff.mp rowFound).1
        have stored := List.Forall₂.get stores.rows nativeInside rowInside
        rw [SparseMatrix.entry?, List.getElem?_eq_getElem rowInside, Option.bind_some]
        refine (stored.lookup c).trans ?_
        rw [columnFound, Option.bind_some]
        exact congrArg (cell · column) (List.getElem?_eq_some_iff.mp rowFound).2
      simp only [member?_int, if_pos rowKnown, if_pos columnKnown, rowDense, columnDense, bind,
        Except.bind, rowBound, columnBound, and_self, if_true, entry]
      rfl
    · rw [absent (.inr columnKnown)]
      simp only [member?_int, if_pos rowKnown, if_neg columnKnown, bind, Except.bind]
      rfl
  · rw [absent (.inl rowKnown)]
    simp only [member?_int, if_neg rowKnown, bind, Except.bind]
    rfl

end DenseOperator

end Regrid
