import Regrid.Proofs.Coupling.Layout
import Regrid.Proofs.Coupling.Overlaps
import Regrid.Proofs.Sparse.Accumulator
import Regrid.Proofs.Sparse.Action

/-!
Contract: the operators of a realized sheet, in exact arithmetic.

Owns:
- when a sheet can be realized and when it is, and its overlaps as integers with areas;
- the action of the averages on ice data points, and of the areas on model cells.

Does not own: several sheets together.
-/

namespace Regrid

open Attempt

/-- An overlap by the integers that operators know it by: its model cell, its ice data point,
and its position in height-point space. -/
structure Piece where
  modelCell : Int
  icePoint : Int
  column : Int
  area : Rat

namespace Piece

/-- The entry of a piece in the row of its model cell. -/
def modelEntry (piece : Piece) : Int × Int × Rat := (piece.modelCell, piece.column, piece.area)

/-- The entry of a piece in the row of its ice data point. -/
def iceEntry (piece : Piece) : Int × Int × Rat := (piece.icePoint, piece.column, piece.area)

/-- A piece lies inside the extents of a coupling and has no negative area. -/
structure Fits (piece : Piece) (modelExtent iceExtent columnExtent : Int) : Prop where
  modelCell : 0 ≤ piece.modelCell ∧ piece.modelCell < modelExtent
  icePoint : 0 ≤ piece.icePoint ∧ piece.icePoint < iceExtent
  column : 0 ≤ piece.column ∧ piece.column < columnExtent
  area : 0 ≤ piece.area

theorem Fits.modelEntry_inside {piece : Piece} {modelExtent iceExtent columnExtent : Int}
    (fits : piece.Fits modelExtent iceExtent columnExtent) :
    Inside modelExtent columnExtent piece.modelEntry :=
  ⟨fits.modelCell, fits.column⟩

theorem Fits.iceEntry_inside {piece : Piece} {modelExtent iceExtent columnExtent : Int}
    (fits : piece.Fits modelExtent iceExtent columnExtent) :
    Inside iceExtent columnExtent piece.iceEntry :=
  ⟨fits.icePoint, fits.column⟩

end Piece

namespace Sheet

/-- A sheet sees an overlap as a piece. -/
structure Sees {γ : Type} (sheet : Sheet γ Rat) (overlap : Overlap Rat) (piece : Piece) : Prop where
  modelCell : overlap.modelCell.toInteger = .ok piece.modelCell
  icePoint : overlap.icePoint.toInteger = .ok piece.icePoint
  column : sheet.heightIndex overlap.modelCell overlap.elevation = .ok (.int piece.column)
  area : overlap.area = piece.area

/-- A sheet keeps the overlaps that its meshes had for the given extents. Mask and elevations
may have been others when the overlaps were listed. Its ice mesh is sound, as all meshes are
that operations reach, and the classifier, if there is one, finds a height point for each
overlap. -/
structure Realized (sheet : Sheet (Grid Rat) Rat) (modelExtent heightPoints : Int)
    (overlaps : List (Overlap Rat)) : Prop where
  extent : sheet.modelExtent = .int modelExtent
  heights : sheet.heightPoints = .int heightPoints
  iceMesh : sheet.iceMesh.Sound (.held Rat)
  addresses : ∀ cell ∈ sheet.exchangeMesh.cells.items, ∃ i, cell.i = .int i
  listed : ∃ mask elevation, { sheet with mask, elevation }.listOverlaps = .ok overlaps
  kept : sheet.overlaps = some overlaps
  classified : ∀ classify, sheet.classifier = some classify → ∀ overlap ∈ overlaps,
    ∃ answer height, classify overlap.modelCell overlap.elevation = .ok answer ∧
      answer.toInteger = .ok height ∧ 0 ≤ height ∧ height < heightPoints

/-- A sheet that can be realized: it lists its overlaps, on a sound ice mesh and on model cells
with integer addresses, and the classifier, if there is one, finds a height point for each. -/
structure Realizable (sheet : Sheet (Grid Rat) Rat) (modelExtent heightPoints : Int)
    (overlaps : List (Overlap Rat)) : Prop where
  extent : sheet.modelExtent = .int modelExtent
  heights : sheet.heightPoints = .int heightPoints
  iceMesh : sheet.iceMesh.Sound (.held Rat)
  addresses : ∀ cell ∈ sheet.exchangeMesh.cells.items, ∃ i, cell.i = .int i
  listed : sheet.listOverlaps = .ok overlaps
  classified : ∀ classify, sheet.classifier = some classify → ∀ overlap ∈ overlaps,
    ∃ answer height, classify overlap.modelCell overlap.elevation = .ok answer ∧
      answer.toInteger = .ok height ∧ 0 ≤ height ∧ height < heightPoints

variable {γ : Type} {modelExtent heightPoints : Int}

theorem Realizable.realized {sheet : Sheet (Grid Rat) Rat} {overlaps : List (Overlap Rat)}
    (realizable : sheet.Realizable modelExtent heightPoints overlaps) :
    { sheet with overlaps := some overlaps }.Realized modelExtent heightPoints overlaps where
  extent := realizable.extent
  heights := realizable.heights
  iceMesh := realizable.iceMesh
  addresses := realizable.addresses
  listed := ⟨sheet.mask, sheet.elevation, realizable.listed⟩
  kept := rfl
  classified := realizable.classified

/-- Each overlap of a realized sheet is seen as a piece inside the extents. -/
theorem Realized.exists_pieces {sheet : Sheet (Grid Rat) Rat} {overlaps : List (Overlap Rat)}
    (realized : sheet.Realized modelExtent heightPoints overlaps) :
    0 < modelExtent ∧ 1 ≤ heightPoints ∧ ∃ pieces, List.Forall₂ sheet.Sees overlaps pieces ∧
      ∀ piece ∈ pieces,
        piece.Fits modelExtent sheet.iceMesh.fieldLength (heightPoints * modelExtent) := by
  obtain ⟨mask, elevation, listed⟩ := realized.listed
  obtain ⟨positive, enough, lies⟩ := mem_listOverlaps listed realized.iceMesh realized.addresses
    realized.extent realized.heights
  have each : ∀ overlap ∈ overlaps, ∃ piece, sheet.Sees overlap piece ∧
      piece.Fits modelExtent sheet.iceMesh.fieldLength (heightPoints * modelExtent) := by
    intro overlap member
    have area := (lies overlap member).area_nonneg
    obtain ⟨⟨i, modelCell, cellBounds⟩, ⟨p, icePoint, pointBounds⟩, _⟩ := lies overlap member
    obtain ⟨height, classified, least, most⟩ :=
      exists_heightPoint enough realized.classified overlap member
    have places : sheet.Places modelExtent heightPoints overlap i height
        (height * modelExtent + i) := ⟨modelCell, classified, least, most, rfl⟩
    refine ⟨⟨i, p, height * modelExtent + i, overlap.area⟩, ⟨?_, icePoint,
      places.heightIndex realized.extent realized.heights, rfl⟩, cellBounds, pointBounds,
      places.inside cellBounds.1 cellBounds.2, area⟩
    rw [modelCell]
    rfl
  obtain ⟨pieces, seen⟩ := exists_forall₂ each
  refine ⟨positive, enough, pieces, seen.imp fun _ _ both => both.1, fun piece member => ?_⟩
  obtain ⟨_, _, _, fits⟩ := exists_item_of_mem seen member
  exact fits

/-! ### Entries of pieces -/

theorem Sees.iceEntry {sheet : Sheet γ Rat} {overlap : Overlap Rat} {piece : Piece}
    (sees : sheet.Sees overlap piece) : sheet.entry (·.icePoint) overlap = .ok piece.iceEntry :=
  entry_eq_ok_iff.mpr ⟨⟨_, sees.column, Value.toInteger_int _⟩, sees.icePoint, sees.area⟩

theorem Sees.modelEntry {sheet : Sheet γ Rat} {overlap : Overlap Rat} {piece : Piece}
    (sees : sheet.Sees overlap piece) : sheet.entry (·.modelCell) overlap = .ok piece.modelEntry :=
  entry_eq_ok_iff.mpr ⟨⟨_, sees.column, Value.toInteger_int _⟩, sees.modelCell, sees.area⟩

end Sheet

/-! ### Averages -/

/-- An operator averages over entries: its rows are those of the entries, it takes a field to its
averages, and it stores the share that each position has in its row. -/
structure DenseOperator.Averages (operator : DenseOperator Rat) (entries : List (Int × Int × Rat))
    (rowExtent columnExtent : Int) : Prop where
  shape : operator.nativeShape = (rowExtent, columnExtent)
  rowExtent : operator.axes.rows.sparseExtent = rowExtent
  columnExtent : operator.axes.columns.sparseExtent = columnExtent
  mem_rows_iff : ∀ row, row ∈ operator.axes.rows.natives ↔ row ∈ entries.map (·.1)
  mem_columns_iff : ∀ column,
    column ∈ operator.axes.columns.natives ↔ column ∈ entries.map (·.2.1)
  acts : operator.Acts fun f => rowAverage f entries
  stores : operator.Stores fun row column => (sum? (valuesAt entries row column)).bind
    (SparseMatrix.scaled? (reciprocal (rowWeight entries row)))

theorem reciprocal_rat (x : Rat) : reciprocal x = if x = 0 then 0 else 1 / x := by
  rw [reciprocal]
  by_cases none : x = 0
  · rw [if_pos none]
    exact if_pos ((Scalar.isZero_rat _).mpr none)
  · rw [if_neg none]
    exact if_neg (mt (Scalar.isZero_rat _).mp none)

/-- Scaled with the reciprocals of the weights of its rows, an assembled operator averages. -/
theorem DenseOperator.Assembles.averages {assembled operator : DenseOperator Rat}
    {entries : List (Int × Int × Rat)} {rowExtent columnExtent : Int}
    (assembles : assembled.Assembles entries rowExtent columnExtent)
    (inside : ∀ entry ∈ entries, Inside rowExtent columnExtent entry)
    (done : assembled.scaleRows (.ofList (assembled.axes.rows.natives.map fun row =>
      reciprocal (rowWeight entries row))) = .ok operator) :
    operator.Averages entries rowExtent columnExtent := by
  let factor := fun row => reciprocal (rowWeight entries row)
  obtain ⟨scaled, scaledDone, axes, acts⟩ := (assembles.acts inside).scaleRows factor
  obtain rfl := Except.ok.inj (done.symm.trans scaledDone)
  obtain ⟨_, storedDone, _, shape, stores⟩ := assembles.stores.scaleRows factor
  obtain rfl := Except.ok.inj (done.symm.trans storedDone)
  obtain ⟨rowsExtent, columnsExtent⟩ := assembles.sparseExtents
  have average : (fun f row => factor row * rowTotal f entries row) =
      fun f => rowAverage f entries := by
    funext f row
    simp only [factor, reciprocal_rat, rowAverage]
  rw [average] at acts
  refine ⟨shape.trans assembles.nativeShape, axes ▸ rowsExtent, axes ▸ columnsExtent,
    fun row => ?_, fun column => ?_, acts, stores⟩
  · rw [axes]
    exact (assembles.mem_natives_iff row).1
  · rw [axes]
    exact (assembles.mem_natives_iff column).2

namespace DenseOperator.Averages

variable {operator : DenseOperator Rat} {entries : List (Int × Int × Rat)}
  {rowExtent columnExtent : Int}

theorem rowsNatural (averages : operator.Averages entries rowExtent columnExtent)
    (natural : 0 ≤ rowExtent) : 0 ≤ operator.axes.rows.sparseExtent := by
  rwa [averages.rowExtent]

/-- The columns fit 64 bits if the size of height-point space does, unless there are no entries. -/
theorem columnWords (averages : operator.Averages entries rowExtent columnExtent)
    (words : entries ≠ [] → word columnExtent = .ok columnExtent) :
    ∀ column ∈ operator.axes.columns.natives, word column = .ok column := by
  intro column member
  obtain ⟨natural, below⟩ := averages.acts.columnsInside column member
  rw [averages.columnExtent] at below
  obtain ⟨entry, entryMember, _⟩ := List.mem_map.mp ((averages.mem_columns_iff column).mp member)
  exact word_of_lt natural below (words (List.ne_nil_of_mem entryMember))

end DenseOperator.Averages

namespace Sheet

variable {modelExtent heightPoints : Int} {sheet : Sheet (Grid Rat) Rat}
  {overlaps : List (Overlap Rat)} {pieces : List Piece} {iceExtent columnExtent : Int}

/-- The operator to ice data points averages over the pieces of each point. -/
theorem exists_heightToIce_averages (extent : sheet.modelExtent = .int modelExtent)
    (heights : sheet.heightPoints = .int heightPoints) (kept : sheet.overlaps = some overlaps)
    (seen : List.Forall₂ sheet.Sees overlaps pieces)
    (fits : ∀ piece ∈ pieces, piece.Fits modelExtent sheet.iceMesh.fieldLength
      (heightPoints * modelExtent))
    (iceNatural : 0 ≤ sheet.iceMesh.fieldLength) (spaceNatural : 0 ≤ heightPoints * modelExtent) :
    ∃ operator, sheet.heightToIce = .ok operator ∧ operator.Averages (pieces.map Piece.iceEntry)
      sheet.iceMesh.fieldLength (heightPoints * modelExtent) := by
  have inside : ∀ entry ∈ pieces.map Piece.iceEntry,
      Inside sheet.iceMesh.fieldLength (heightPoints * modelExtent) entry :=
    List.forall_mem_map.mpr fun piece member => (fits piece member).iceEntry_inside
  have read : sheet.entries (·.icePoint) = .ok (pieces.map Piece.iceEntry) :=
    entries_eq_ok_iff.mpr ⟨overlaps, kept,
      List.forall₂_map_right_iff.mpr (seen.imp fun _ _ sees => sees.iceEntry)⟩
  obtain ⟨operator, done⟩ := exists_heightToIce extent heights read inside iceNatural spaceNatural
  obtain ⟨_, _, assembled, readAgain, space, assembles, scaled, _⟩ := heightToIce_eq_ok done
  obtain rfl := Except.ok.inj (read.symm.trans readAgain)
  rw [heightExtent, heightSpace_eq extent heights] at space
  cases space
  have sums : reciprocals assembled.matrix.rowSums = assembled.axes.rows.natives.map fun row =>
      reciprocal (rowWeight (pieces.map Piece.iceEntry) row) := by
    rw [(assembles.acts inside).rowSums, reciprocals, List.map_map]
    rfl
  rw [sums] at scaled
  exact ⟨operator, done, assembles.averages inside scaled⟩

theorem lists_of_sees (extent : sheet.modelExtent = .int modelExtent)
    (heights : sheet.heightPoints = .int heightPoints) (kept : sheet.overlaps = some overlaps)
    (seen : List.Forall₂ sheet.Sees overlaps pieces)
    (fits : ∀ piece ∈ pieces, piece.Fits modelExtent iceExtent (heightPoints * modelExtent)) :
    sheet.Lists modelExtent heightPoints (pieces.map Piece.modelEntry) where
  extent := extent
  heights := heights
  read := entries_eq_ok_iff.mpr ⟨overlaps, kept,
    List.forall₂_map_right_iff.mpr (seen.imp fun _ _ sees => sees.modelEntry)⟩
  inside := List.forall_mem_map.mpr fun piece member => (fits piece member).modelEntry_inside

end Sheet

end Regrid
