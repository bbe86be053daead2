import Mathlib.Tactic.Linarith
import Regrid.Proofs.Coupling.Conservation

/-!
Contract: the operators of realized sheets are averages.

Owns:
- what it says that the rows of an operator average over the overlaps that lie in them;
- that the operators to ice data points and to model cells do so, and when they are made.

Does not own: totals of products.
-/

namespace Regrid

open Attempt SparseMatrix

/-! ### Averages lie between bounds -/

theorem rowTotal_between {f : Int → Rat} {low high : Rat} {entries : List (Int × Int × Rat)}
    (weights : ∀ entry ∈ entries, 0 ≤ entry.2.2)
    (bounds : ∀ entry ∈ entries, low ≤ f entry.2.1 ∧ f entry.2.1 ≤ high) (row : Int) :
    low * rowWeight entries row ≤ rowTotal f entries row ∧
      rowTotal f entries row ≤ high * rowWeight entries row := by
  induction entries with
  | nil => simp [rowWeight, rowTotal, entryTotal]
  | cons entry rest inductionHypothesis =>
      obtain ⟨restLow, restHigh⟩ := inductionHypothesis
        (fun other member => weights other (by simp [member]))
        fun other member => bounds other (by simp [member])
      obtain ⟨entryLow, entryHigh⟩ := bounds entry (by simp)
      have natural := weights entry (by simp)
      have least := mul_le_mul_of_nonneg_right entryLow natural
      have most := mul_le_mul_of_nonneg_right entryHigh natural
      rw [rowWeight] at restLow restHigh ⊢
      rw [rowTotal_cons, rowTotal_cons, one_mul]
      by_cases here : row = entry.1
      · rw [if_pos here, if_pos here]
        constructor <;> linarith
      · rw [if_neg here, if_neg here]
        constructor <;> linarith

theorem rowAverage_of_pos {f : Int → Rat} {entries : List (Int × Int × Rat)} {row : Int}
    (positive : 0 < rowWeight entries row) :
    rowAverage f entries row = rowTotal f entries row / rowWeight entries row := by
  rw [rowAverage, if_neg (ne_of_gt positive), one_div_mul_eq_div]

/-- An average over a row of positive weight lies between bounds of what is averaged. -/
theorem rowAverage_between {f : Int → Rat} {low high : Rat} {entries : List (Int × Int × Rat)}
    (weights : ∀ entry ∈ entries, 0 ≤ entry.2.2)
    (bounds : ∀ entry ∈ entries, low ≤ f entry.2.1 ∧ f entry.2.1 ≤ high) {row : Int}
    (positive : 0 < rowWeight entries row) :
    low ≤ rowAverage f entries row ∧ rowAverage f entries row ≤ high := by
  obtain ⟨least, most⟩ := rowTotal_between weights bounds row
  rw [rowAverage_of_pos positive]
  exact ⟨(le_div_iff₀ positive).mpr least, (div_le_iff₀ positive).mpr most⟩

/-! ### Averages over overlaps -/

/-- The area of all overlaps in a row, which is named by `place`. -/
def overlapArea (place : Overlap Rat → Value) (overlaps : List (Overlap Rat)) (row : Int) : Rat :=
  ((overlaps.filter fun overlap => (place overlap).toInteger.toOption = some row).map (·.area)).sum

/-- An overlap lies in a row. -/
def Overlap.LiesIn (overlap : Overlap Rat) (place : Overlap Rat → Value) (row : Int) : Prop :=
  (place overlap).toInteger = .ok row

/-- A number averages a field over the overlaps in a row. If they have an area, it lies between all
bounds of the field, and is the value of a constant field. It vanishes if they have no area, and is
`fill` if there is no overlap. -/
structure AveragesField (place : Overlap Rat → Value) (overlaps : List (Overlap Rat)) (fill : Rat)
    (field : List Rat) (row : Int) (average : Rat) : Prop where
  between : 0 < overlapArea place overlaps row → ∀ low high, (∀ x ∈ field, low ≤ x ∧ x ≤ high) →
    low ≤ average ∧ average ≤ high
  constant : 0 < overlapArea place overlaps row → ∀ x, (∀ y ∈ field, y = x) → average = x
  weightless : (∃ overlap ∈ overlaps, overlap.LiesIn place row) →
    overlapArea place overlaps row = 0 → average = 0
  untouched : (∀ overlap ∈ overlaps, ¬ overlap.LiesIn place row) → average = fill

/-- Each row of an operator is the area-weighted average over the overlaps that lie in it:
its weights are not negative and add up to one, unless the overlaps have no area and the row
is empty. The rows are those in which an overlap lies. Products are answered exactly if a vector
over the rows finds room and the columns fit 64 bits. -/
structure DenseOperator.AveragesOver (operator : DenseOperator Rat)
    (place : Overlap Rat → Value) (overlaps : List (Overlap Rat)) (rowExtent columnExtent : Int) :
    Prop where
  rows : ∀ row, row ∈ operator.axes.rows.natives ↔
    ∃ overlap ∈ overlaps, overlap.LiesIn place row
  columns : ∀ column ∈ operator.axes.columns.natives, 0 ≤ column ∧ column < columnExtent
  readBack : word rowExtent = .ok rowExtent → word columnExtent = .ok columnExtent →
    operator.toNative = .ok ⟨(rowExtent, columnExtent), operator.nativeEntries⟩
  natural : ∀ entry ∈ operator.nativeEntries, 0 ≤ entry.2.2
  normalised : ∀ row, 0 < overlapArea place overlaps row →
    ((operator.nativeEntries.filter (·.1 = row)).map (·.2.2)).sum = 1
  empty : ∀ row, overlapArea place overlaps row = 0 → ∀ entry ∈ operator.nativeEntries,
    entry.1 ≠ row
  answers : ∀ (fill : Rat) (field : List Rat), (field.length : Int) = columnExtent →
    ((∃ product, operator.apply fill (.ofList field) = .ok product) ↔
      rowExtent < unaffordableLength ∧
        ∀ column ∈ operator.axes.columns.natives, word column = .ok column)
  products : ∀ (fill : Rat) (field product : List Rat), (field.length : Int) = columnExtent →
    operator.apply fill (.ofList field) = .ok product → (product.length : Int) = rowExtent ∧
    ∀ row, 0 ≤ row → row < rowExtent → ∃ average, itemAt product row = .ok average ∧
      AveragesField place overlaps fill field row average

/-- An overlap has become an entry of the row in which it lies, with its area as weight. -/
def Overlap.Weighs (place : Overlap Rat → Value) (overlap : Overlap Rat)
    (entry : Int × Int × Rat) : Prop :=
  overlap.LiesIn place entry.1 ∧ overlap.area = entry.2.2

theorem overlapArea_eq_rowWeight {place : Overlap Rat → Value} {overlaps : List (Overlap Rat)}
    {listed : List (Int × Int × Rat)}
    (weighed : List.Forall₂ (Overlap.Weighs place) overlaps listed)
    (row : Int) : overlapArea place overlaps row = rowWeight listed row := by
  induction weighed with
  | nil => rfl
  | @cons overlap entry _ _ first _ inductionHypothesis =>
      obtain ⟨lies, area⟩ := first
      have read : (place overlap).toInteger.toOption = some entry.1 := by
        rw [show (place overlap).toInteger = .ok entry.1 from lies]
        rfl
      rw [overlapArea] at inductionHypothesis ⊢
      rw [rowWeight, rowTotal_cons, one_mul, ← rowWeight, ← inductionHypothesis, ← area]
      by_cases here : row = entry.1
      · rw [List.filter_cons_of_pos (by simp [read, here]), if_pos here]
        rfl
      · rw [List.filter_cons_of_neg (by simpa [read] using Ne.symm here), if_neg here, zero_add]

theorem liesIn_iff_mem_rows {place : Overlap Rat → Value} {overlaps : List (Overlap Rat)}
    {listed : List (Int × Int × Rat)}
    (weighed : List.Forall₂ (Overlap.Weighs place) overlaps listed)
    (row : Int) : (∃ overlap ∈ overlaps, overlap.LiesIn place row) ↔ row ∈ listed.map (·.1) := by
  constructor
  · rintro ⟨overlap, member, lies⟩
    obtain ⟨entry, entryMember, weighs⟩ := exists_answer_of_mem weighed member
    have same : entry.1 = row := Except.ok.inj (weighs.1.symm.trans lies)
    exact List.mem_map.mpr ⟨entry, entryMember, same⟩
  · intro member
    obtain ⟨entry, entryMember, rfl⟩ := List.mem_map.mp member
    obtain ⟨overlap, overlapMember, weighs⟩ := exists_item_of_mem weighed entryMember
    exact ⟨overlap, overlapMember, weighs.1⟩

theorem fieldAt_mem {field : List Rat} {column : Int} (natural : 0 ≤ column)
    (below : column < field.length) : fieldAt field column ∈ field := by
  have bound : column.toNat < field.length := by omega
  rw [fieldAt, List.getD_eq_getElem?_getD, List.getElem?_eq_getElem bound]
  exact List.getElem_mem bound

namespace DenseOperator

variable {operator : DenseOperator Rat} {entries listed : List (Int × Int × Rat)}
  {rowExtent columnExtent : Int}

/-- What is read back of an averaging operator is its entries, each divided by the weight of
its row. -/
theorem Averages.sum_valuesAt (averages : operator.Averages entries rowExtent columnExtent)
    (row column : Int) : (valuesAt operator.nativeEntries row column).sum =
      reciprocal (rowWeight entries row) * (valuesAt entries row column).sum := by
  rw [averages.stores.valuesAt_nativeEntries, sum_toList_scaled?, sum_toList_sum?]

theorem Averages.nothing_of_weightless (averages : operator.Averages entries rowExtent columnExtent)
    {row : Int} (weightless : rowWeight entries row = 0) :
    ∀ entry ∈ operator.nativeEntries, entry.1 ≠ row := by
  rintro ⟨r, column, x⟩ member rfl
  obtain ⟨y, _, scaled⟩ := Option.bind_eq_some_iff.mp
    ((averages.stores.mem_nativeEntries_iff r column x).mp member)
  rw [reciprocal_rat, if_pos weightless] at scaled
  rw [scaled?, if_pos ((Scalar.isZero_rat 0).mpr rfl)] at scaled
  cases scaled

theorem Averages.rowSum (averages : operator.Averages entries rowExtent columnExtent) {row : Int}
    (positive : 0 < rowWeight entries row) :
    ((operator.nativeEntries.filter (·.1 = row)).map (·.2.2)).sum = 1 := by
  have weight : rowWeight operator.nativeEntries row =
      reciprocal (rowWeight entries row) * rowWeight entries row :=
    rowTotal_eq_mul (averages.sum_valuesAt row) _
  rw [reciprocal_rat, if_neg (ne_of_gt positive), one_div_mul_cancel (ne_of_gt positive)] at weight
  simpa only [rowWeight, rowTotal, entryTotal, one_mul] using weight

theorem Averages.readBack (averages : operator.Averages entries rowExtent columnExtent)
    (rowWord : word rowExtent = .ok rowExtent) (columnWord : word columnExtent = .ok columnExtent) :
    operator.toNative = .ok ⟨(rowExtent, columnExtent), operator.nativeEntries⟩ := by
  have acts := averages.acts
  have rowWords : operator.axes.rows.nativeWords = .ok operator.axes.rows.natives := by
    refine IndexSet.nativeWords_eq_ok_iff.mpr ⟨rfl, fun native member => ?_⟩
    have bounds := acts.rowsInside native member
    rw [averages.rowExtent] at bounds
    exact word_of_lt bounds.1 bounds.2 rowWord
  have columnWords : operator.axes.columns.nativeWords = .ok operator.axes.columns.natives :=
    IndexSet.nativeWords_eq_ok_iff.mpr ⟨rfl, averages.columnWords fun _ => columnWord⟩
  rw [toNative_of_words acts.rowCount acts.columnsBelow rowWords columnWords, averages.shape,
    rowWord, columnWord]
  rfl

theorem Averages.natural (averages : operator.Averages entries rowExtent columnExtent)
    (same : SameSums entries listed) (weights : ∀ entry ∈ listed, 0 ≤ entry.2.2) :
    ∀ entry ∈ operator.nativeEntries, 0 ≤ entry.2.2 := by
  rintro ⟨row, column, x⟩ member
  have single := averages.stores.valuesAt_nativeEntries row column
  rw [(averages.stores.mem_nativeEntries_iff row column x).mp member] at single
  have value : x = reciprocal (rowWeight entries row) * (valuesAt listed row column).sum := by
    rw [← same.sums, ← averages.sum_valuesAt, single]
    simp
  have weightNatural : 0 ≤ rowWeight entries row := by
    rw [rowWeight, same.rowTotal_eq, rowTotal, entryTotal]
    refine List.sum_nonneg fun y member => ?_
    obtain ⟨entry, entryMember, rfl⟩ := List.mem_map.mp member
    rw [one_mul]
    exact weights entry (List.mem_filter.mp entryMember).1
  have sumNatural : 0 ≤ (valuesAt listed row column).sum :=
    List.sum_nonneg fun y yMember => weights _ (mem_valuesAt.mp yMember)
  have factorNatural : 0 ≤ reciprocal (rowWeight entries row) := by
    rw [reciprocal_rat]
    split
    · exact le_rfl
    · exact one_div_nonneg.mpr weightNatural
  show 0 ≤ x
  rw [value]
  exact mul_nonneg factorNatural sumNatural

theorem Averages.between (same : SameSums entries listed)
    (weights : ∀ entry ∈ listed, 0 ≤ entry.2.2)
    (inside : ∀ entry ∈ listed, Inside rowExtent columnExtent entry) {field : List Rat}
    (length : (field.length : Int) = columnExtent) {row : Int}
    (positive : 0 < rowWeight entries row) {low high : Rat}
    (bounds : ∀ x ∈ field, low ≤ x ∧ x ≤ high) :
    low ≤ rowAverage (fieldAt field) entries row ∧
      rowAverage (fieldAt field) entries row ≤ high := by
  have average : rowAverage (fieldAt field) entries row =
      rowAverage (fieldAt field) listed row := by
    rw [rowAverage, rowAverage, rowWeight, rowWeight, same.rowTotal_eq, same.rowTotal_eq]
  rw [rowWeight, same.rowTotal_eq] at positive
  rw [average]
  refine rowAverage_between weights (fun entry member => ?_) positive
  obtain ⟨natural, below⟩ := (inside entry member).2
  exact bounds _ (fieldAt_mem natural (by omega))

section Overlaps

variable {place : Overlap Rat → Value} {overlaps : List (Overlap Rat)}

theorem Averages.overlapArea_eq (same : SameSums entries listed)
    (weighed : List.Forall₂ (Overlap.Weighs place) overlaps listed) (row : Int) :
    overlapArea place overlaps row = rowWeight entries row := by
  rw [overlapArea_eq_rowWeight weighed, rowWeight, rowWeight, same.rowTotal_eq]

theorem Averages.mem_rows_iff_liesIn (averages : operator.Averages entries rowExtent columnExtent)
    (same : SameSums entries listed)
    (weighed : List.Forall₂ (Overlap.Weighs place) overlaps listed) (row : Int) :
    row ∈ operator.axes.rows.natives ↔ ∃ overlap ∈ overlaps, overlap.LiesIn place row := by
  rw [averages.mem_rows_iff, same.rows, liesIn_iff_mem_rows weighed]

/-- In a row that the operator touches, the average of the entries averages over the overlaps. -/
theorem Averages.averagesField (same : SameSums entries listed)
    (weighed : List.Forall₂ (Overlap.Weighs place) overlaps listed)
    (weights : ∀ entry ∈ listed, 0 ≤ entry.2.2)
    (inside : ∀ entry ∈ listed, Inside rowExtent columnExtent entry) (fill : Rat)
    {field : List Rat} (length : (field.length : Int) = columnExtent) {row : Int}
    (touched : ∃ overlap ∈ overlaps, overlap.LiesIn place row) :
    AveragesField place overlaps fill field row (rowAverage (fieldAt field) entries row) := by
  have between : 0 < overlapArea place overlaps row → ∀ low high,
      (∀ x ∈ field, low ≤ x ∧ x ≤ high) → low ≤ rowAverage (fieldAt field) entries row ∧
        rowAverage (fieldAt field) entries row ≤ high := by
    intro positive low high bounds
    rw [Averages.overlapArea_eq same weighed] at positive
    exact Averages.between same weights inside length positive bounds
  refine ⟨between, fun positive x constant => ?_, fun _ weightless => ?_, fun none => ?_⟩
  · have both : ∀ y ∈ field, x ≤ y ∧ y ≤ x := fun y member => by
      rw [constant y member]
      exact ⟨le_rfl, le_rfl⟩
    obtain ⟨least, most⟩ := between positive x x both
    exact le_antisymm most least
  · rw [Averages.overlapArea_eq same weighed] at weightless
    rw [rowAverage, if_pos weightless, zero_mul]
  · obtain ⟨overlap, member, lies⟩ := touched
    exact absurd lies (none overlap member)

/-- Where no overlap lies, only `fill` averages over the overlaps. -/
theorem averagesField_fill (fill : Rat) (field : List Rat) {row : Int}
    (untouched : ¬ ∃ overlap ∈ overlaps, overlap.LiesIn place row) :
    AveragesField place overlaps fill field row fill := by
  have weightless : overlapArea place overlaps row = 0 := by
    have none : (overlaps.filter fun overlap =>
        (place overlap).toInteger.toOption = some row) = [] := by
      refine List.filter_eq_nil_iff.mpr fun overlap member read => untouched ⟨overlap, member, ?_⟩
      exact eq_ok_of_toOption (of_decide_eq_true read)
    rw [overlapArea, none]
    rfl
  refine ⟨fun positive => ?_, fun positive => ?_, fun some => absurd some untouched, fun _ => rfl⟩
  · exact absurd weightless (ne_of_gt positive)
  · exact absurd weightless (ne_of_gt positive)

/-- An operator that averages over entries averages over the overlaps that they come from. -/
theorem Averages.averagesOver (averages : operator.Averages entries rowExtent columnExtent)
    (same : SameSums entries listed)
    (weighed : List.Forall₂ (Overlap.Weighs place) overlaps listed)
    (weights : ∀ entry ∈ listed, 0 ≤ entry.2.2)
    (inside : ∀ entry ∈ listed, Inside rowExtent columnExtent entry) (rowsNatural : 0 ≤ rowExtent) :
    operator.AveragesOver place overlaps rowExtent columnExtent := by
  have area := Averages.overlapArea_eq same weighed
  have rows := averages.mem_rows_iff_liesIn same weighed
  have rowsExtent := averages.rowExtent
  have columnsExtent := averages.columnExtent
  have natural := averages.rowsNatural rowsNatural
  have long : ∀ {field : List Rat}, (field.length : Int) = columnExtent →
      operator.axes.columns.sparseExtent ≤ field.length := by
    intro field length
    rw [columnsExtent, length]
  refine ⟨rows, columnsExtent ▸ averages.acts.columnsInside, averages.readBack,
    averages.natural same weights, fun row positive => averages.rowSum (area row ▸ positive),
    fun row weightless => averages.nothing_of_weightless (area row ▸ weightless), ?_, ?_⟩
  · intro fill field length
    rw [averages.acts.exists_apply_iff fill (long length) natural, ← rowsExtent]
    exact ⟨fun applicable => ⟨applicable.rows, applicable.columns⟩,
      fun ⟨short, words⟩ => ⟨words, short⟩⟩
  · intro fill field answer length answered
    obtain ⟨_, applied, productLength, each, others⟩ :=
      averages.acts.apply fill (long length) (applicable_of_apply answered) natural
    obtain rfl := Except.ok.inj (answered.symm.trans applied)
    refine ⟨productLength.trans rowsExtent, fun row rowNatural below => ?_⟩
    by_cases touched : ∃ overlap ∈ overlaps, overlap.LiesIn place row
    · exact ⟨_, each row ((rows row).mpr touched),
        Averages.averagesField same weighed weights inside fill length touched⟩
    · exact ⟨fill, others row rowNatural (rowsExtent ▸ below) (mt (rows row).mp touched),
        averagesField_fill fill field touched⟩

end Overlaps

end DenseOperator

/-! ### Realized sheets and couplings -/

theorem Sheet.Realized.exists_heightToIce {sheet : Sheet (Grid Rat) Rat}
    {modelExtent heightPoints : Int} {overlaps : List (Overlap Rat)}
    (realized : sheet.Realized modelExtent heightPoints overlaps) :
    ∃ operator, sheet.heightToIce = .ok operator ∧ operator.AveragesOver (·.icePoint) overlaps
      sheet.iceMesh.fieldLength (heightPoints * modelExtent) := by
  obtain ⟨positive, enough, pieces, seen, fits⟩ := realized.exists_pieces
  have iceNatural := realized.iceMesh.fieldLength_natural
  have spaceNatural : 0 ≤ heightPoints * modelExtent := Int.mul_nonneg (by omega) (by omega)
  obtain ⟨operator, done, averages⟩ := Sheet.exists_heightToIce_averages realized.extent
    realized.heights realized.kept seen fits iceNatural spaceNatural
  have weighed : List.Forall₂ (Overlap.Weighs (·.icePoint)) overlaps
      (pieces.map Piece.iceEntry) :=
    List.forall₂_map_right_iff.mpr (seen.imp fun _ _ sees => ⟨sees.icePoint, sees.area⟩)
  have weights : ∀ entry ∈ pieces.map Piece.iceEntry, 0 ≤ entry.2.2 :=
    List.forall_mem_map.mpr fun piece member => (fits piece member).area
  have inside : ∀ entry ∈ pieces.map Piece.iceEntry,
      Inside sheet.iceMesh.fieldLength (heightPoints * modelExtent) entry :=
    List.forall_mem_map.mpr fun piece member => (fits piece member).iceEntry_inside
  exact ⟨operator, done, averages.averagesOver (.refl _) weighed weights inside iceNatural⟩

namespace CouplingSpace

/-- The overlaps that the sheets of a coupling have listed, sheet by sheet. -/
def overlaps {α : Type} [Scalar α] (space : CouplingSpace α) (ref : Ref (Coupling α)) :
    List (Overlap α) :=
  (space.viewSheets ref).flatMap fun sheet => sheet.overlaps.getD []

variable {space : CouplingSpace Rat} {ref : Ref (Coupling Rat)} {heightPoints : Int}

end CouplingSpace

end Regrid
