import Regrid.Proofs.Coupling.Entries

/-!
Contract: where overlaps stand in height-point space.

Owns:
- the height point of an overlap and its position in height-point space;
- that every entry of an operator stands at the position of an overlap of a sheet, laid out with
  the extent of that sheet.

Does not own: how a sheet came to its extent and its overlaps.
-/

namespace Regrid

open Attempt

variable {γ α : Type}

/-- The height point that the classifier of a sheet finds for ice over a model cell, and height
point zero without a classifier. -/
def Sheet.heightPoint (sheet : Sheet γ α) (modelCell : Value) (elevation : α) :
    Except Error Int :=
  match sheet.classifier with
  | none => .ok 0
  | some classify => do (← classify modelCell elevation).toInteger

namespace Sheet

variable {sheet : Sheet γ α} {modelExtent heightPoints : Int}

/-- Ice lies as many model extents further as its height point says, and height points that are
not among those of the sheet are refused. -/
theorem heightIndex_eq_ok_iff (extent : sheet.modelExtent = .int modelExtent)
    (heights : sheet.heightPoints = .int heightPoints) {i : Int} {elevation : α} {column : Value} :
    sheet.heightIndex (.int i) elevation = .ok column ↔
      ∃ height, sheet.heightPoint (.int i) elevation = .ok height ∧
        (0 ≤ height ∧ height < heightPoints) ∧ column = .int (height * modelExtent + i) := by
  have placed : ∀ height : Int, (do
      if 0 ≤ height then
        if ← (Value.int height).isBelow sheet.heightPoints then
          return ← (← (Value.int height).mul sheet.modelExtent).add (.int i)
      throw (Error.heightPointOutside height sheet.heightPoints.plain)) =
        (.ok column : Except Error Value) ↔
      (0 ≤ height ∧ height < heightPoints) ∧ column = .int (height * modelExtent + i) := by
    intro height
    simp only [heights, extent, Value.isBelow_int, Value.mul_int, Value.add_int, bind, Except.bind,
      decide_eq_true_eq]
    by_cases natural : 0 ≤ height
    · by_cases below : height < heightPoints
      · simp [natural, below, eq_comm]
      · simp [natural, below, throw, throwThe, MonadExceptOf.throw]
    · simp [natural, throw, throwThe, MonadExceptOf.throw]
  have single : ∀ {height : Int} {P : Int → Prop},
      (∃ other, (.ok height : Except Error Int) = .ok other ∧ P other) ↔ P height := by
    intro height P
    exact ⟨fun ⟨_, same, holds⟩ => by cases same; exact holds, fun holds => ⟨height, rfl, holds⟩⟩
  unfold heightIndex heightPoint
  cases sheet.classifier with
  | none =>
      have here := placed 0
      simp only [bind, Except.bind] at here ⊢
      rw [here, single]
  | some classify =>
      cases answered : classify (.int i) elevation with
      | error reason => simp [bind, Except.bind, answered]
      | ok answer =>
          cases read : answer.toInteger with
          | error reason => simp [bind, Except.bind, answered, read]
          | ok height =>
              have here := placed height
              simp only [bind, Except.bind, answered, read] at here ⊢
              rw [here, single]

/-- An overlap stands at a position in height-point space. -/
structure Places (sheet : Sheet γ α) (modelExtent heightPoints : Int) (overlap : Overlap α)
    (i height column : Int) : Prop where
  modelCell : overlap.modelCell = .int i
  classified : sheet.heightPoint overlap.modelCell overlap.elevation = .ok height
  natural : 0 ≤ height
  below : height < heightPoints
  column : column = height * modelExtent + i

/-- On a model cell inside the extent, the position tells the cell and the height point. -/
theorem Places.decode {overlap : Overlap α} {i height column : Int}
    (places : sheet.Places modelExtent heightPoints overlap i height column) (natural : 0 ≤ i)
    (below : i < modelExtent) : column % modelExtent = i ∧ column / modelExtent = height := by
  have positive : modelExtent ≠ 0 := by omega
  rw [places.column]
  constructor
  · rw [Int.add_comm, Int.add_mul_emod_self_right, Int.emod_eq_of_lt natural below]
  · rw [Int.add_comm, Int.add_mul_ediv_right _ _ positive, Int.ediv_eq_zero_of_lt natural below,
      Int.zero_add]

/-- On a model cell inside the extent, the position lies in height-point space. -/
theorem Places.inside {overlap : Overlap α} {i height column : Int}
    (places : sheet.Places modelExtent heightPoints overlap i height column) (natural : 0 ≤ i)
    (below : i < modelExtent) : 0 ≤ column ∧ column < heightPoints * modelExtent := by
  have start : 0 ≤ height * modelExtent := Int.mul_nonneg places.natural (by omega)
  have beyond : (height + 1) * modelExtent ≤ heightPoints * modelExtent :=
    Int.mul_le_mul_of_nonneg_right places.below (by omega)
  rw [add_one_mul] at beyond
  rw [places.column]
  omega

theorem Places.heightIndex {overlap : Overlap α} {i height column : Int}
    (places : sheet.Places modelExtent heightPoints overlap i height column)
    (extent : sheet.modelExtent = .int modelExtent)
    (heights : sheet.heightPoints = .int heightPoints) :
    sheet.heightIndex overlap.modelCell overlap.elevation = .ok (.int column) := by
  have classified := places.classified
  rw [places.modelCell] at classified ⊢
  exact (heightIndex_eq_ok_iff extent heights).mpr
    ⟨height, classified, ⟨places.natural, places.below⟩, congrArg Value.int places.column⟩

/-- The entry of an overlap on an integer model cell stands at its position. -/
theorem places_of_entry (extent : sheet.modelExtent = .int modelExtent)
    (heights : sheet.heightPoints = .int heightPoints) {place : Overlap α → Value}
    {overlap : Overlap α} {entry : Int × Int × α} (read : sheet.entry place overlap = .ok entry)
    {i : Int} (modelCell : overlap.modelCell = .int i) :
    (place overlap).toInteger = .ok entry.1 ∧
      ∃ height, sheet.Places modelExtent heightPoints overlap i height entry.2.1 := by
  obtain ⟨⟨column, found, columnRead⟩, rowRead, _⟩ := entry_eq_ok_iff.mp read
  refine ⟨rowRead, ?_⟩
  have found' := found
  rw [modelCell] at found'
  obtain ⟨height, classified, ⟨natural, below⟩, rfl⟩ :=
    (heightIndex_eq_ok_iff extent heights).mp found'
  exact ⟨height, modelCell, modelCell ▸ classified, natural, below,
    (Except.ok.inj columnRead).symm⟩

/-- The classifier of a sheet, if there is one, answers with one of so many height points for each
overlap, once its answer is made an integer. -/
def Classified (sheet : Sheet γ α) (heightPoints : Int) (overlaps : List (Overlap α)) : Prop :=
  ∀ classify, sheet.classifier = some classify → ∀ overlap ∈ overlaps,
    ∃ answer height, classify overlap.modelCell overlap.elevation = .ok answer ∧
      answer.toInteger = .ok height ∧ 0 ≤ height ∧ height < heightPoints

/-- A classifier that finds a height point for each overlap, or none at all, gives each overlap a
height point. -/
theorem exists_heightPoint {overlaps : List (Overlap α)} (enough : 1 ≤ heightPoints)
    (classified : sheet.Classified heightPoints overlaps) :
    ∀ overlap ∈ overlaps, ∃ height,
      sheet.heightPoint overlap.modelCell overlap.elevation = .ok height ∧
        0 ≤ height ∧ height < heightPoints := by
  intro overlap member
  unfold heightPoint
  cases kind : sheet.classifier with
  | none => exact ⟨0, rfl, Int.le_refl 0, by omega⟩
  | some classify =>
      obtain ⟨answer, height, answered, read, bounds⟩ := classified classify kind overlap member
      refine ⟨height, ?_, bounds⟩
      simp only [answered, bind, Except.bind, read]

/-- Overlaps on model cells inside the extent, each in a height point, become entries inside
height-point space, in whatever rows they are placed. -/
theorem exists_entries {overlaps : List (Overlap α)} {place : Overlap α → Value} {rowExtent : Int}
    (extent : sheet.modelExtent = .int modelExtent)
    (heights : sheet.heightPoints = .int heightPoints) (kept : sheet.overlaps = some overlaps)
    (cells : ∀ overlap ∈ overlaps, ∃ i, overlap.modelCell = .int i ∧ 0 ≤ i ∧ i < modelExtent)
    (classified : ∀ overlap ∈ overlaps, ∃ height,
      sheet.heightPoint overlap.modelCell overlap.elevation = .ok height ∧
        0 ≤ height ∧ height < heightPoints)
    (rows : ∀ overlap ∈ overlaps, ∃ row,
      (place overlap).toInteger = .ok row ∧ 0 ≤ row ∧ row < rowExtent) :
    ∃ listed, sheet.entries place = .ok listed ∧
      ∀ entry ∈ listed, Inside rowExtent (heightPoints * modelExtent) entry := by
  have each : ∀ overlap ∈ overlaps, ∃ entry, sheet.entry place overlap = .ok entry ∧
      Inside rowExtent (heightPoints * modelExtent) entry := by
    intro overlap member
    obtain ⟨i, modelCell, natural, below⟩ := cells overlap member
    obtain ⟨height, found, bounds⟩ := classified overlap member
    obtain ⟨row, rowRead, rowBounds⟩ := rows overlap member
    have places : sheet.Places modelExtent heightPoints overlap i height
        (height * modelExtent + i) := ⟨modelCell, found, bounds.1, bounds.2, rfl⟩
    exact ⟨(row, height * modelExtent + i, overlap.area), entry_eq_ok_iff.mpr
      ⟨⟨_, places.heightIndex extent heights, rfl⟩, rowRead, rfl⟩, rowBounds,
        places.inside natural below⟩
  obtain ⟨listed, read⟩ := exists_forall₂ each
  refine ⟨listed, entries_eq_ok_iff.mpr ⟨overlaps, kept, read.imp fun _ _ both => both.1⟩,
    fun entry member => ?_⟩
  obtain ⟨_, _, _, inside⟩ := exists_item_of_mem read member
  exact inside

/-- A sheet with overlaps for its extents, each in a height point, lists entries inside them. -/
theorem exists_lists {overlaps : List (Overlap α)}
    (extent : sheet.modelExtent = .int modelExtent)
    (heights : sheet.heightPoints = .int heightPoints) (kept : sheet.overlaps = some overlaps)
    (cells : ∀ overlap ∈ overlaps, ∃ i, overlap.modelCell = .int i ∧ 0 ≤ i ∧ i < modelExtent)
    (classified : ∀ overlap ∈ overlaps, ∃ height,
      sheet.heightPoint overlap.modelCell overlap.elevation = .ok height ∧
        0 ≤ height ∧ height < heightPoints) :
    ∃ listed, sheet.Lists modelExtent heightPoints listed := by
  have rows : ∀ overlap ∈ overlaps, ∃ row,
      overlap.modelCell.toInteger = .ok row ∧ 0 ≤ row ∧ row < modelExtent := by
    intro overlap member
    obtain ⟨i, modelCell, bounds⟩ := cells overlap member
    exact ⟨i, congrArg Value.toInteger modelCell, bounds⟩
  obtain ⟨listed, read, inside⟩ := exists_entries extent heights kept cells classified rows
  exact ⟨listed, extent, heights, read, inside⟩

/-- A sheet keeps overlaps on model cells for its extents, each of them in a height point. -/
structure Located (sheet : Sheet γ α) (modelExtent heightPoints : Int)
    (overlaps : List (Overlap α)) : Prop where
  extent : sheet.modelExtent = .int modelExtent
  heights : sheet.heightPoints = .int heightPoints
  positive : 0 < modelExtent
  enough : 1 ≤ heightPoints
  kept : sheet.overlaps = some overlaps
  modelCells : ∀ overlap ∈ overlaps, ∃ i, overlap.modelCell = .int i ∧ 0 ≤ i ∧ i < modelExtent
  classified : sheet.Classified heightPoints overlaps

theorem Located.exists_lists {overlaps : List (Overlap α)}
    (located : sheet.Located modelExtent heightPoints overlaps) :
    ∃ listed, sheet.Lists modelExtent heightPoints listed :=
  Sheet.exists_lists located.extent located.heights located.kept located.modelCells
    (exists_heightPoint located.enough located.classified)

theorem Located.exists_entries {overlaps : List (Overlap α)} {place : Overlap α → Value}
    {rowExtent : Int} (located : sheet.Located modelExtent heightPoints overlaps)
    (rows : ∀ overlap ∈ overlaps, ∃ row,
      (place overlap).toInteger = .ok row ∧ 0 ≤ row ∧ row < rowExtent) :
    ∃ listed, sheet.entries place = .ok listed ∧
      ∀ entry ∈ listed, Inside rowExtent (heightPoints * modelExtent) entry :=
  Sheet.exists_entries located.extent located.heights located.kept located.modelCells
    (exists_heightPoint located.enough located.classified) rows

theorem Located.natural {overlaps : List (Overlap α)}
    (located : sheet.Located modelExtent heightPoints overlaps) :
    0 ≤ modelExtent ∧ 0 ≤ heightPoints * modelExtent := by
  have positive := located.positive
  have enough := located.enough
  exact ⟨by omega, Int.mul_nonneg (by omega) (by omega)⟩

variable [Scalar α]

/-- Every entry of the averages on ice data points stands at the position of a listed overlap on
its ice data point. -/
theorem exists_places_of_mem_heightToIce {ν κ : Type} {sheet : Sheet (Mesh ν κ) α}
    (extent : sheet.modelExtent = .int modelExtent)
    (heights : sheet.heightPoints = .int heightPoints)
    {operator : DenseOperator α} (done : sheet.heightToIce = .ok operator) :
    ∃ overlaps, sheet.overlaps = some overlaps ∧ ((∀ overlap ∈ overlaps, ∃ i,
      overlap.modelCell = .int i) → ∀ entry ∈ operator.nativeEntries, ∃ overlap ∈ overlaps,
        overlap.icePoint.toInteger = .ok entry.1 ∧
          ∃ i height, sheet.Places modelExtent heightPoints overlap i height entry.2.1) := by
  obtain ⟨listed, _, assembled, read, _, assembles, scaled, _⟩ := heightToIce_eq_ok done
  obtain ⟨overlaps, kept, each⟩ := entries_eq_ok_iff.mp read
  refine ⟨overlaps, kept, fun integers entry member => ?_⟩
  obtain ⟨x, listedMember⟩ := assembles.exists_of_mem_scaleRows scaled member
  obtain ⟨overlap, overlapMember, entryRead⟩ := exists_item_of_mem each listedMember
  obtain ⟨i, modelCell⟩ := integers overlap overlapMember
  obtain ⟨icePoint, height, places⟩ := places_of_entry extent heights entryRead modelCell
  exact ⟨overlap, overlapMember, icePoint, i, height, places⟩

end Sheet

variable [Scalar α]

/-- Every entry of the averages of several sheets on model cells stands at the position of a
listed overlap of one of the sheets, on its model cell, which lies inside the extent of that
sheet. -/
theorem exists_places_of_mem_heightToModel {modelExtent : Int} {heightPoints : Value}
    {sheets : List (Sheet γ α)} {operator : DenseOperator α} {areas : Accumulator α}
    (done : heightToModel modelExtent heightPoints sheets = .ok (operator, areas))
    {entry : Int × Int × α} (member : entry ∈ operator.nativeEntries) :
    ∃ sheet ∈ sheets, ∃ overlaps, sheet.overlaps = some overlaps ∧
      ∀ extent heights, sheet.modelExtent = .int extent → sheet.heightPoints = .int heights →
        (∀ overlap ∈ overlaps, ∃ i, overlap.modelCell = .int i) →
          (0 ≤ entry.1 ∧ entry.1 < extent) ∧ ∃ overlap ∈ overlaps, ∃ height,
            sheet.Places extent heights overlap entry.1 height entry.2.1 := by
  obtain ⟨parts, _, assembled, contributions, _, _, assembles, scaled, _⟩ :=
    heightToModel_eq_ok done
  obtain ⟨x, sumMember⟩ := assembles.exists_of_mem_scaleRows scaled member
  obtain ⟨part, partMember, inPart⟩ := List.mem_flatMap.mp sumMember
  obtain ⟨sheet, sheetMember, contribution⟩ := exists_item_of_mem contributions partMember
  obtain ⟨y, listedMember⟩ := contribution.condenses.exists_of_mem inPart
  obtain ⟨overlaps, kept, each⟩ := Sheet.entries_eq_ok_iff.mp contribution.read
  obtain ⟨overlap, overlapMember, entryRead⟩ := exists_item_of_mem each listedMember
  refine ⟨sheet, sheetMember, overlaps, kept, fun extent heights own points integers => ?_⟩
  obtain ⟨rowExtent, _, rowRead, _, _, _, inside⟩ := contribution.addressable
  rw [own] at rowRead
  cases rowRead
  obtain ⟨i, modelCell⟩ := integers overlap overlapMember
  obtain ⟨row, height, places⟩ := Sheet.places_of_entry own points entryRead modelCell
  rw [modelCell] at row
  obtain rfl := Except.ok.inj row
  exact ⟨(inside _ listedMember).1, overlap, overlapMember, height, places⟩

end Regrid
