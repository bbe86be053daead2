import Regrid.Proofs.Coupling.Agreement
import Regrid.Proofs.Coupling.Conservation
import Regrid.Proofs.Coupling.Restriction

/-!
Contract: what a sheet computes from its pieces of ice does not depend on their order.

Owns:
- the single values of operators as sums over entries, and entries in another order;
- that a sheet sees the same pieces as one that it agrees with;
- that the two then have operators of the same values and add up the same areas.

Does not own: that both sheets list the same pieces.

The order of the overlaps decides how an operator numbers its rows and columns and in which order
it adds up the areas at a position. Exact sums do not depend on the latter, and single values are
asked for by native indices, which do not depend on the former.
-/

namespace Regrid

open Attempt SparseMatrix

/-! ### Single values -/

namespace DenseOperator

variable {operator : DenseOperator Rat} {entries : List (Int × Int × Rat)}
  {rowExtent columnExtent : Int}

/-- An averaging operator has at each position the share of the position in the weight of its
row. -/
theorem Averages.value (averages : operator.Averages entries rowExtent columnExtent)
    (row column : Int) : operator.value (.int row) (.int column) =
      .ok (reciprocal (rowWeight entries row) * (valuesAt entries row column).sum) := by
  rw [averages.stores.value, getD_zero_eq_sum, sum_toList_scaled?, sum_toList_sum?]

/-- Two operators have the same value at all native indices. -/
def SameValues (first second : DenseOperator Rat) : Prop :=
  ∀ row column : Int, ∃ x, first.value (.int row) (.int column) = .ok x ∧
    second.value (.int row) (.int column) = .ok x

end DenseOperator

/-! ### Another order -/

theorem sameSums_of_perm {first second : List (Int × Int × Rat)} (perm : first.Perm second) :
    SameSums first second := by
  have values : ∀ row column, (valuesAt first row column).Perm (valuesAt second row column) :=
    fun row column => (perm.filter _).map _
  exact ⟨fun row column => (values row column).sum_eq, fun row column => by
    rw [← List.length_eq_zero_iff, ← List.length_eq_zero_iff, (values row column).length_eq]⟩

theorem SameSums.rowWeight_eq {first second : List (Int × Int × Rat)}
    (same : SameSums first second) (row : Int) : rowWeight first row = rowWeight second row :=
  same.rowTotal_eq _ row

/-- Entries in another order add the same to every sum. -/
theorem SameSums.get?_addAll {first second : List (Int × Int × Rat)}
    (same : SameSums first second) (areas : Accumulator Rat) (index : Int) :
    (areas.addAll first).get? index = (areas.addAll second).get? index := by
  simp only [Accumulator.get?_addAll, same.rows, same.rowWeight_eq]

namespace DenseOperator

variable {operator other : DenseOperator Rat} {entries others : List (Int × Int × Rat)}
  {rowExtent columnExtent otherRows otherColumns : Int}

theorem Averages.sameValues (averages : operator.Averages entries rowExtent columnExtent)
    (otherAverages : other.Averages others otherRows otherColumns)
    (same : SameSums entries others) : operator.SameValues other := by
  intro row column
  refine ⟨_, averages.value row column, ?_⟩
  rw [otherAverages.value, same.rowWeight_eq, same.sums]

theorem Assembles.sameValues (assembles : operator.Assembles entries rowExtent columnExtent)
    (otherAssembles : other.Assembles others otherRows otherColumns)
    (same : SameSums entries others) : operator.SameValues other := by
  intro row column
  refine ⟨_, assembles.value row column, ?_⟩
  rw [otherAssembles.value, same.sums]

end DenseOperator

/-! ### Sheets -/

namespace Sheet

variable {first second : Sheet (Grid Rat) Rat} {overlaps own : List (Overlap Rat)}

theorem Agrees.heightIndex (agrees : first.Agrees second) (modelCell : Value) (elevation : Rat) :
    first.heightIndex modelCell elevation = second.heightIndex modelCell elevation := by
  simp only [Sheet.heightIndex, agrees.classifier, agrees.heightPoints, agrees.modelExtent]

/-- What one sheet sees as a piece, a sheet that agrees with it sees as the same piece. -/
theorem Agrees.sees (agrees : first.Agrees second) {overlap other : Overlap Rat}
    (same : other.Matches overlap) {piece : Piece} (sees : second.Sees overlap piece) :
    first.Sees other piece where
  modelCell := same.modelCell ▸ sees.modelCell
  icePoint := same.icePoint.trans sees.icePoint
  column := by
    rw [agrees.heightIndex, same.modelCell, same.elevation]
    exact sees.column
  area := same.area.trans sees.area

/-- The same pieces are seen in the order in which they are listed. -/
theorem Agrees.exists_pieces (agrees : first.Agrees second) (same : SamePieces own overlaps)
    {pieces : List Piece} (seen : List.Forall₂ second.Sees overlaps pieces) :
    ∃ others, List.Forall₂ first.Sees own others ∧ others.Perm pieces := by
  obtain ⟨middle, perm, matching⟩ := same
  exact List.perm_comp_forall₂ perm
    (forall₂_trans matching seen fun _ _ _ same sees => agrees.sees same sees)

/-- Two sheets compute the same: their operators are made and have the same values, and they add
the same areas to whatever sums there are. -/
structure ComputesLike (first second : Sheet (Grid Rat) Rat) : Prop where
  toIce : ∃ operator other, first.heightToIce = .ok operator ∧ second.heightToIce = .ok other ∧
    operator.SameValues other
  toModel : ∀ areas, ∃ operator after other otherAfter,
    first.heightToModel.whole areas = .ok (operator, after) ∧
    second.heightToModel.whole areas = .ok (other, otherAfter) ∧ operator.SameValues other ∧
    ∀ cell, after.get? cell = otherAfter.get? cell
  covered : ∀ areas, ∃ after otherAfter, first.accumulateAreas areas = .ok after ∧
    second.accumulateAreas areas = .ok otherAfter ∧
    ∀ cell, after.get? cell = otherAfter.get? cell

/-- A sheet sees its overlaps as pieces inside its extents, which are not negative. -/
structure Presents (sheet : Sheet (Grid Rat) Rat) (modelExtent heightPoints : Int)
    (pieces : List Piece) : Prop where
  extent : sheet.modelExtent = .int modelExtent
  heights : sheet.heightPoints = .int heightPoints
  seen : ∃ overlaps, sheet.overlaps = some overlaps ∧ List.Forall₂ sheet.Sees overlaps pieces
  fits : ∀ piece ∈ pieces, piece.Fits modelExtent sheet.iceMesh.fieldLength
    (heightPoints * modelExtent)
  modelNatural : 0 ≤ modelExtent
  spaceNatural : 0 ≤ heightPoints * modelExtent
  iceNatural : 0 ≤ sheet.iceMesh.fieldLength

variable {modelExtent heightPoints : Int} {pieces others : List Piece}

theorem Presents.lists (presents : second.Presents modelExtent heightPoints pieces) :
    second.Lists modelExtent heightPoints (pieces.map Piece.modelEntry) := by
  obtain ⟨overlaps, kept, seen⟩ := presents.seen
  exact lists_of_sees presents.extent presents.heights kept seen presents.fits

theorem Presents.exists_heightToIce_averages
    (presents : second.Presents modelExtent heightPoints pieces) :
    ∃ operator, second.heightToIce = .ok operator ∧
      operator.Averages (pieces.map Piece.iceEntry) second.iceMesh.fieldLength
        (heightPoints * modelExtent) := by
  obtain ⟨overlaps, kept, seen⟩ := presents.seen
  exact Sheet.exists_heightToIce_averages presents.extent presents.heights kept seen
    presents.fits presents.iceNatural presents.spaceNatural

/-- Sheets whose pieces have the same sums compute the same. -/
theorem Presents.computesLike (present : first.Presents modelExtent heightPoints others)
    (presents : second.Presents modelExtent heightPoints pieces)
    (sameModel : SameSums (others.map Piece.modelEntry) (pieces.map Piece.modelEntry))
    (sameIce : SameSums (others.map Piece.iceEntry) (pieces.map Piece.iceEntry)) :
    first.ComputesLike second := by
  refine ⟨?_, fun areas => ?_, fun areas => ?_⟩
  · obtain ⟨operator, done, averages⟩ := present.exists_heightToIce_averages
    obtain ⟨other, otherDone, otherAverages⟩ := presents.exists_heightToIce_averages
    exact ⟨operator, other, done, otherDone, averages.sameValues otherAverages sameIce⟩
  · obtain ⟨operator, done⟩ :=
      present.lists.exists_heightToModel present.modelNatural present.spaceNatural areas
    obtain ⟨other, otherDone⟩ :=
      presents.lists.exists_heightToModel present.modelNatural present.spaceNatural areas
    obtain ⟨_, _, _, read, _, _, _, assembles, _⟩ := heightToModel_eq_ok done
    obtain ⟨_, _, _, otherRead, _, _, _, otherAssembles, _⟩ := heightToModel_eq_ok otherDone
    obtain rfl := Except.ok.inj (present.lists.read.symm.trans read)
    obtain rfl := Except.ok.inj (presents.lists.read.symm.trans otherRead)
    exact ⟨operator, _, other, _, done, otherDone, assembles.sameValues otherAssembles sameModel,
      sameModel.get?_addAll areas⟩
  · exact ⟨_, _, accumulateAreas_of_entries present.lists.read areas,
      accumulateAreas_of_entries presents.lists.read areas, sameModel.get?_addAll areas⟩

theorem Realized.exists_presents (realized : second.Realized modelExtent heightPoints overlaps) :
    ∃ pieces, List.Forall₂ second.Sees overlaps pieces ∧
      second.Presents modelExtent heightPoints pieces := by
  obtain ⟨positive, enough, pieces, seen, fits⟩ := realized.exists_pieces
  exact ⟨pieces, seen, realized.extent, realized.heights, ⟨overlaps, realized.kept, seen⟩, fits,
    by omega, Int.mul_nonneg (by omega) (by omega), realized.iceMesh.fieldLength_natural⟩

/-- A sheet that agrees with a realized one and lists the same pieces computes the same. -/
theorem Agrees.computesLike (agrees : first.Agrees second)
    (realized : second.Realized modelExtent heightPoints overlaps)
    (kept : first.overlaps = some own) (same : SamePieces own overlaps) :
    first.ComputesLike second := by
  obtain ⟨pieces, seen, presents⟩ := realized.exists_presents
  obtain ⟨others, othersSeen, perm⟩ := agrees.exists_pieces same seen
  have length := agrees.iceMesh.fieldLength
  have present : first.Presents modelExtent heightPoints others :=
    { presents with
      extent := agrees.modelExtent.trans realized.extent
      heights := agrees.heightPoints.trans realized.heights
      seen := ⟨own, kept, othersSeen⟩
      fits := fun piece member => length ▸ presents.fits piece (perm.mem_iff.mp member)
      iceNatural := length ▸ presents.iceNatural }
  exact present.computesLike presents (sameSums_of_perm (perm.map Piece.modelEntry))
    (sameSums_of_perm (perm.map Piece.iceEntry))

end Sheet

end Regrid
