import Regrid.Coupling.Regridding
import Regrid.Proofs.Sparse.Accumulator
import Regrid.Proofs.Sparse.Stored

/-!
Contract: the entries that overlaps become in the operators of sheets, in any arithmetic.

Owns:
- the entry of an overlap, in the row of its model cell or of its ice data point;
- that the operators of one sheet and of several sheets hold these entries and no others;
- that they are made whenever the entries lie inside the native shape, and fit 64 bits where they
  are read back.

Does not own: what the entries stand for, and laws of the arithmetic.
-/

namespace Regrid

open Attempt

variable {γ α : Type}

/-! ### Entries -/

namespace Sheet

/-- The entry of an overlap in the row that it names. -/
def entry (sheet : Sheet γ α) (place : Overlap α → Value) (overlap : Overlap α) :
    Except Error (Int × Int × α) := do
  let column ← sheet.heightIndex overlap.modelCell overlap.elevation
  return (← (place overlap).toInteger, ← column.toInteger, overlap.area)

/-- The entries of all listed overlaps. -/
def entries (sheet : Sheet γ α) (place : Overlap α → Value) :
    Except Error (List (Int × Int × α)) := do
  (← sheet.requireOverlaps).mapM (sheet.entry place)

variable {sheet : Sheet γ α} {place : Overlap α → Value}

theorem entry_eq_ok_iff {overlap : Overlap α} {entry : Int × Int × α} :
    sheet.entry place overlap = .ok entry ↔
      (∃ column, sheet.heightIndex overlap.modelCell overlap.elevation = .ok column ∧
        column.toInteger = .ok entry.2.1) ∧
      (place overlap).toInteger = .ok entry.1 ∧ overlap.area = entry.2.2 := by
  obtain ⟨row, column, x⟩ := entry
  constructor
  · intro read
    obtain ⟨position, found, rest⟩ := bind_eq_ok read
    obtain ⟨_, rowRead, rest⟩ := bind_eq_ok rest
    obtain ⟨_, columnRead, same⟩ := bind_eq_ok rest
    cases same
    exact ⟨⟨position, found, columnRead⟩, rowRead, rfl⟩
  · rintro ⟨⟨position, found, columnRead⟩, rowRead, rfl⟩
    simp only [entry, found, rowRead, columnRead, bind, Except.bind]
    rfl

theorem entries_eq_ok_iff {listed : List (Int × Int × α)} :
    sheet.entries place = .ok listed ↔ ∃ overlaps, sheet.overlaps = some overlaps ∧
      List.Forall₂ (fun overlap entry => sheet.entry place overlap = .ok entry) overlaps
        listed := by
  simp only [entries, requireOverlaps]
  cases sheet.overlaps with
  | none => simp [bind, Except.bind]
  | some overlaps => simp [bind, Except.bind, mapM_eq_ok_iff]

/-- An overlap is added as its entry. -/
theorem addOverlap_eq_ok_iff (place : Overlap α → Value) {overlap : Overlap α}
    {builder changed : SparseBuilder α} :
    sheet.addOverlap (place overlap) overlap builder = .ok changed ↔
      ∃ entry, sheet.entry place overlap = .ok entry ∧
        (SparseBuilder.add entry.1 entry.2.1 entry.2.2).outcome builder = (.ok (), changed) := by
  constructor
  · intro done
    obtain ⟨position, found, rest⟩ := bind_eq_ok done
    obtain ⟨⟨_, after⟩, added, same⟩ := bind_eq_ok rest
    cases same
    rw [whole_eq_ok_iff] at added
    obtain ⟨row, _, rowRead, later⟩ := outcome_bind_eq_ok added
    obtain ⟨rowInteger, rfl⟩ := outcome_lift_eq_ok rowRead
    obtain ⟨_, _, _, later⟩ := outcome_bind_eq_ok later
    obtain ⟨column, _, columnRead, _⟩ := outcome_bind_eq_ok later
    obtain ⟨columnInteger, rfl⟩ := outcome_lift_eq_ok columnRead
    rw [SparseBuilder.outcome_addAt rowInteger columnInteger] at added
    exact ⟨(row, column, overlap.area),
      entry_eq_ok_iff.mpr ⟨⟨position, found, columnInteger⟩, rowInteger, rfl⟩, added⟩
  · rintro ⟨entry, read, added⟩
    obtain ⟨⟨position, found, columnRead⟩, rowRead, area⟩ := entry_eq_ok_iff.mp read
    rw [← SparseBuilder.outcome_addAt rowRead columnRead, ← area] at added
    simp only [addOverlap, found, whole_of_ok added, bind, Except.bind]
    rfl

theorem foldlM_addOverlap_eq_ok (place : Overlap α → Value) {overlaps : List (Overlap α)}
    {builder changed : SparseBuilder α} {earlier : List (Int × Int × α)}
    (collects : builder.Collects earlier)
    (done : overlaps.foldlM (fun builder overlap =>
      sheet.addOverlap (place overlap) overlap builder) builder = .ok changed) :
    ∃ added, overlaps.mapM (sheet.entry place) = .ok added ∧
      changed.Collects (earlier ++ added) := by
  induction overlaps generalizing builder earlier with
  | nil =>
      cases done
      exact ⟨[], rfl, by simpa using collects⟩
  | cons overlap rest inductionHypothesis =>
      rw [List.foldlM_cons] at done
      obtain ⟨middle, first, later⟩ := bind_eq_ok done
      obtain ⟨entry, read, added⟩ := (addOverlap_eq_ok_iff place).mp first
      obtain ⟨others, readOthers, all⟩ := inductionHypothesis (collects.added added) later
      refine ⟨entry :: others, ?_, by simpa using all⟩
      rw [List.mapM_cons, read, readOthers]
      rfl

theorem exists_foldlM_addOverlap {overlaps : List (Overlap α)} {added : List (Int × Int × α)}
    (read : overlaps.mapM (sheet.entry place) = .ok added)
    (natural : ∀ entry ∈ added, 0 ≤ entry.1 ∧ 0 ≤ entry.2.1) {builder : SparseBuilder α}
    {earlier : List (Int × Int × α)} (collects : builder.Collects earlier) :
    ∃ changed, overlaps.foldlM (fun builder overlap =>
      sheet.addOverlap (place overlap) overlap builder) builder = .ok changed := by
  rw [mapM_eq_ok_iff] at read
  induction read generalizing builder earlier with
  | nil => exact ⟨builder, rfl⟩
  | @cons overlap entry _ _ first _ inductionHypothesis =>
      obtain ⟨rowNatural, columnNatural⟩ := natural entry (by simp)
      obtain ⟨middle, addedFirst⟩ := collects.exists_add rowNatural columnNatural entry.2.2
      obtain ⟨changed, later⟩ := inductionHypothesis
        (fun other member => natural other (by simp [member])) (collects.added addedFirst)
      refine ⟨changed, ?_⟩
      rw [List.foldlM_cons, (addOverlap_eq_ok_iff place).mpr ⟨entry, first, addedFirst⟩]
      exact later

theorem fixedShape_eq_ok {builder changed : SparseBuilder α} {listed : List (Int × Int × α)}
    (collects : builder.Collects listed) {rows columns : Value}
    (done : fixedShape rows columns builder = .ok changed) :
    ∃ rowExtent columnExtent, rows.toInteger = .ok rowExtent ∧
      columns.toInteger = .ok columnExtent ∧ changed = builder.shaped rowExtent columnExtent ∧
      (0 ≤ rowExtent ∧ 0 ≤ columnExtent) ∧
      ∀ entry ∈ listed, Inside rowExtent columnExtent entry := by
  obtain ⟨⟨_, after⟩, fixed, same⟩ := bind_eq_ok done
  cases same
  exact collects.fixedShape (whole_eq_ok_iff.mp fixed)

theorem fixedShape_of_inside {builder : SparseBuilder α} {listed : List (Int × Int × α)}
    (collects : builder.Collects listed) {rows columns : Int} (rowNatural : 0 ≤ rows)
    (columnNatural : 0 ≤ columns)
    (inside : ∀ entry ∈ listed, entry.1 < rows ∧ entry.2.1 < columns) :
    fixedShape (.int rows) (.int columns) builder = .ok (builder.shaped rows columns) := by
  rw [fixedShape, whole_of_ok (collects.fixShape rowNatural columnNatural inside)]
  rfl

/-- The size of height-point space as an integer. -/
def heightExtent (sheet : Sheet γ α) : Except Error Int := do (← sheet.heightSpace).toInteger

theorem heightSpace_eq {modelExtent heightPoints : Int}
    (extent : sheet.modelExtent = .int modelExtent)
    (heights : sheet.heightPoints = .int heightPoints) :
    sheet.heightSpace = .ok (.int (heightPoints * modelExtent)) := by
  rw [heightSpace, extent, heights, Value.mul_int]

end Sheet

variable [Scalar α]

/-! ### Averages on ice data points -/

namespace Sheet

/-- The averages on ice data points are those over the entries of the overlaps. -/
theorem heightToIce_eq_ok {ν κ : Type} {sheet : Sheet (Mesh ν κ) α} {operator : DenseOperator α}
    (done : sheet.heightToIce = .ok operator) :
    ∃ (listed : List (Int × Int × α)) (columnExtent : Int) (assembled : DenseOperator α),
      sheet.entries (·.icePoint) = .ok listed ∧
      sheet.heightExtent = .ok columnExtent ∧
      assembled.Assembles listed sheet.iceMesh.fieldLength columnExtent ∧
      assembled.scaleRows (.ofList (reciprocals assembled.matrix.rowSums)) = .ok operator ∧
      ∀ entry ∈ listed, Inside sheet.iceMesh.fieldLength columnExtent entry := by
  obtain ⟨overlaps, kept, rest⟩ := bind_eq_ok done
  obtain ⟨builder, folded, rest⟩ := bind_eq_ok rest
  obtain ⟨space, spaceRead, rest⟩ := bind_eq_ok rest
  obtain ⟨shaped, fixed, rest⟩ := bind_eq_ok rest
  obtain ⟨assembled, assembledDone, scaled⟩ := bind_eq_ok rest
  obtain ⟨listed, read, collected⟩ :=
    foldlM_addOverlap_eq_ok (·.icePoint) SparseBuilder.collects_empty
    folded
  rw [List.nil_append] at collected
  obtain ⟨rowExtent, columnExtent, rowRead, columnRead, rfl, _, inside⟩ :=
    fixedShape_eq_ok collected fixed
  cases rowRead
  refine ⟨listed, columnExtent, assembled, ?_, ?_, ⟨builder, collected, assembledDone⟩, scaled,
    inside⟩
  · rw [entries, kept]
    exact read
  · rw [heightExtent, spaceRead]
    exact columnRead

/-- The averages on ice data points are made if all entries lie inside the native shape. -/
theorem exists_heightToIce {ν κ : Type} {sheet : Sheet (Mesh ν κ) α}
    {modelExtent heightPoints : Int} (extent : sheet.modelExtent = .int modelExtent)
    (heights : sheet.heightPoints = .int heightPoints)
    {listed : List (Int × Int × α)} (read : sheet.entries (·.icePoint) = .ok listed)
    (inside : ∀ entry ∈ listed, Inside sheet.iceMesh.fieldLength (heightPoints * modelExtent) entry)
    (iceNatural : 0 ≤ sheet.iceMesh.fieldLength) (spaceNatural : 0 ≤ heightPoints * modelExtent) :
    ∃ operator, sheet.heightToIce = .ok operator := by
  obtain ⟨overlaps, kept, read⟩ := bind_eq_ok read
  obtain ⟨builder, folded⟩ := exists_foldlM_addOverlap read
    (fun entry member => ⟨(inside entry member).1.1, (inside entry member).2.1⟩)
    SparseBuilder.collects_empty
  obtain ⟨others, readAgain, collected⟩ := foldlM_addOverlap_eq_ok (·.icePoint)
    SparseBuilder.collects_empty folded
  obtain rfl := Except.ok.inj (read.symm.trans readAgain)
  have shaped := fixedShape_of_inside collected iceNatural spaceNatural
    fun entry member => ⟨(inside entry member).1.2, (inside entry member).2.2⟩
  obtain ⟨assembled, assembledDone, assembles⟩ :=
    collected.exists_toOperator sheet.iceMesh.fieldLength (heightPoints * modelExtent)
  have counted : (reciprocals assembled.matrix.rowSums).length = assembled.matrix.rows.length := by
    simp [reciprocals, SparseMatrix.rowSums]
  obtain ⟨scaled, scaledDone⟩ := assembles.stores.exists_scaleRows counted
  refine ⟨scaled, ?_⟩
  rw [heightToIce, kept, heightSpace_eq extent heights]
  simp only [bind, Except.bind] at folded ⊢
  simp only [folded, shaped, assembledDone, scaledDone]

end Sheet

/-! ### Areas on model cells -/

namespace Sheet

variable {sheet : Sheet γ α}

/-- One overlap is taken in as its entry, whose value is added to the area of its model cell. -/
theorem outcome_addModelOverlap_eq_ok_iff {overlap : Overlap α} {builder changed : SparseBuilder α}
    (areas : Accumulator α) {after : Accumulator α} :
    (do
      let builder ← sheet.addOverlap overlap.modelCell overlap builder
      Accumulator.addAt overlap.modelCell overlap.area
      return builder : Attempt (Accumulator α) (SparseBuilder α)).outcome areas =
        (.ok changed, after) ↔
      sheet.addOverlap overlap.modelCell overlap builder = .ok changed ∧
        ∃ entry, sheet.entry (·.modelCell) overlap = .ok entry ∧
          after = areas.add entry.1 entry.2.2 := by
  have summed : ∀ {entry : Int × Int × α}, sheet.entry (·.modelCell) overlap = .ok entry →
      (Accumulator.addAt overlap.modelCell overlap.area).outcome areas =
        (.ok (), areas.add entry.1 entry.2.2) := by
    intro entry read
    obtain ⟨_, rowRead, area⟩ := entry_eq_ok_iff.mp read
    rw [Accumulator.addAt, outcome_ofFunction, rowRead, area]
    rfl
  constructor
  · intro done
    obtain ⟨middle, between, added, rest⟩ := outcome_bind_eq_ok done
    obtain ⟨addedDone, rfl⟩ := outcome_lift_eq_ok added
    obtain ⟨entry, read, _⟩ := (addOverlap_eq_ok_iff (·.modelCell)).mp addedDone
    rw [outcome_bind_of_ok (summed read)] at rest
    cases rest
    exact ⟨addedDone, entry, read, rfl⟩
  · rintro ⟨added, entry, read, rfl⟩
    rw [added]
    exact outcome_bind_of_ok (summed read) _

theorem outcome_foldlM_addModelOverlap_eq_ok_iff {overlaps : List (Overlap α)}
    {builder changed : SparseBuilder α} (areas : Accumulator α) {after : Accumulator α} :
    (overlaps.foldlM (fun builder overlap => do
      let builder ← sheet.addOverlap overlap.modelCell overlap builder
      Accumulator.addAt overlap.modelCell overlap.area
      return builder) builder : Attempt (Accumulator α) (SparseBuilder α)).outcome areas =
        (.ok changed, after) ↔
      overlaps.foldlM (fun builder overlap =>
        sheet.addOverlap overlap.modelCell overlap builder) builder = .ok changed ∧
        ∃ listed, overlaps.mapM (sheet.entry (·.modelCell)) = .ok listed ∧
          after = areas.addAll listed := by
  simp only [mapM_eq_ok_iff]
  induction overlaps generalizing builder areas with
  | nil =>
      simp only [List.foldlM_nil, outcome_pure, List.forall₂_nil_left_iff, exists_eq_left]
      constructor
      · intro same
        cases same
        exact ⟨rfl, rfl⟩
      · rintro ⟨same, kept⟩
        cases same
        rw [kept]
        rfl
  | cons overlap rest inductionHypothesis =>
      simp only [List.foldlM_cons]
      constructor
      · intro done
        obtain ⟨middle, between, first, later⟩ := outcome_bind_eq_ok done
        obtain ⟨added, entry, read, rfl⟩ := (outcome_addModelOverlap_eq_ok_iff areas).mp first
        obtain ⟨all, listed, readAll, rfl⟩ := (inductionHypothesis _).mp later
        exact ⟨bind_eq_ok_iff.mpr ⟨middle, added, all⟩, entry :: listed, .cons read readAll, rfl⟩
      · rintro ⟨done, listed, each, rfl⟩
        obtain ⟨middle, first, later⟩ := bind_eq_ok done
        cases each with
        | @cons _ entry _ listed read readAll =>
            have firstDone := (outcome_addModelOverlap_eq_ok_iff areas).mpr
              ⟨first, entry, read, rfl⟩
            rw [outcome_bind_of_ok firstDone]
            exact (inductionHypothesis _).mpr ⟨later, listed, readAll, rfl⟩

/-- The areas on model cells are the entries of the overlaps, and are added up on the way. -/
theorem heightToModel_eq_ok {operator : DenseOperator α} {areas after : Accumulator α}
    (done : sheet.heightToModel.whole areas = .ok (operator, after)) :
    ∃ listed rowExtent columnExtent, sheet.entries (·.modelCell) = .ok listed ∧
      after = areas.addAll listed ∧ sheet.modelExtent.toInteger = .ok rowExtent ∧
      sheet.heightExtent = .ok columnExtent ∧
      operator.Assembles listed rowExtent columnExtent ∧
      ∀ entry ∈ listed, Inside rowExtent columnExtent entry := by
  rw [whole_eq_ok_iff] at done
  obtain ⟨overlaps, _, keptRead, rest⟩ := outcome_bind_eq_ok done
  obtain ⟨kept, rfl⟩ := outcome_lift_eq_ok keptRead
  obtain ⟨builder, _, folded, rest⟩ := outcome_bind_eq_ok rest
  obtain ⟨added, listed, read, rfl⟩ := (outcome_foldlM_addModelOverlap_eq_ok_iff _).mp folded
  obtain ⟨space, _, spaceRead, rest⟩ := outcome_bind_eq_ok rest
  obtain ⟨spaceDone, rfl⟩ := outcome_lift_eq_ok spaceRead
  obtain ⟨shaped, _, shapedRead, rest⟩ := outcome_bind_eq_ok rest
  obtain ⟨fixed, rfl⟩ := outcome_lift_eq_ok shapedRead
  obtain ⟨assembledDone, rfl⟩ := outcome_lift_eq_ok rest
  obtain ⟨others, readAgain, collected⟩ := foldlM_addOverlap_eq_ok (·.modelCell)
    SparseBuilder.collects_empty added
  obtain rfl := Except.ok.inj (read.symm.trans readAgain)
  rw [List.nil_append] at collected
  obtain ⟨rowExtent, columnExtent, rowRead, columnRead, rfl, _, inside⟩ :=
    fixedShape_eq_ok collected fixed
  refine ⟨listed, rowExtent, columnExtent, ?_, rfl, rowRead, ?_,
    ⟨builder, collected, assembledDone⟩, inside⟩
  · rw [entries, kept]
    exact read
  · rw [heightExtent, spaceDone]
    exact columnRead

/-- A sheet of the given extents lists entries that lie inside them. -/
structure Lists (sheet : Sheet γ α) (modelExtent heightPoints : Int)
    (listed : List (Int × Int × α)) : Prop where
  extent : sheet.modelExtent = .int modelExtent
  heights : sheet.heightPoints = .int heightPoints
  read : sheet.entries (·.modelCell) = .ok listed
  inside : ∀ entry ∈ listed, Inside modelExtent (heightPoints * modelExtent) entry

/-- The areas on model cells are made if all entries lie inside the native shape. -/
theorem Lists.exists_heightToModel {modelExtent heightPoints : Int} {listed : List (Int × Int × α)}
    (lists : sheet.Lists modelExtent heightPoints listed) (modelNatural : 0 ≤ modelExtent)
    (spaceNatural : 0 ≤ heightPoints * modelExtent) (areas : Accumulator α) :
    ∃ operator, sheet.heightToModel.whole areas = .ok (operator, areas.addAll listed) := by
  obtain ⟨overlaps, kept, read⟩ := bind_eq_ok lists.read
  have inside := lists.inside
  obtain ⟨builder, folded⟩ := exists_foldlM_addOverlap read
    (fun entry member => ⟨(inside entry member).1.1, (inside entry member).2.1⟩)
    SparseBuilder.collects_empty
  obtain ⟨others, readAgain, collected⟩ := foldlM_addOverlap_eq_ok (·.modelCell)
    SparseBuilder.collects_empty folded
  obtain rfl := Except.ok.inj (read.symm.trans readAgain)
  have shaped := fixedShape_of_inside collected modelNatural spaceNatural
    fun entry member => ⟨(inside entry member).1.2, (inside entry member).2.2⟩
  obtain ⟨operator, assembled, _⟩ :=
    collected.exists_toOperator modelExtent (heightPoints * modelExtent)
  refine ⟨operator, whole_of_ok ?_⟩
  have gathered := (outcome_foldlM_addModelOverlap_eq_ok_iff areas).mpr
    ⟨folded, listed, read, rfl⟩
  rw [heightToModel, kept, lists.extent, heightSpace_eq lists.extent lists.heights]
  refine (outcome_bind_of_ok gathered _).trans ?_
  refine (outcome_bind_of_ok (outcome_lift (.ok _) _) _).trans ?_
  rw [shaped]
  refine (outcome_bind_of_ok (outcome_lift (.ok _) _) _).trans ?_
  rw [assembled]
  rfl

/-- The areas of the overlaps are added up as the entries are. -/
theorem accumulateAreas_of_entries {sheet : Sheet γ α} {listed : List (Int × Int × α)}
    (read : sheet.entries (·.modelCell) = .ok listed) (areas : Accumulator α) :
    sheet.accumulateAreas areas = .ok (areas.addAll listed) := by
  obtain ⟨overlaps, kept, each⟩ := entries_eq_ok_iff.mp read
  rw [accumulateAreas, requireOverlaps, kept]
  show overlaps.foldlM _ areas = _
  clear kept read
  induction each generalizing areas with
  | nil => rfl
  | @cons _ entry _ _ first _ inductionHypothesis =>
      obtain ⟨_, row, area⟩ := entry_eq_ok_iff.mp first
      rw [List.foldlM_cons, row, area]
      exact inductionHypothesis (areas.add entry.1 entry.2.2)

end Sheet

/-! ### Several sheets -/

/-- Entries hold at each position the sum of the listed entries there. -/
def Condenses (listed sums : List (Int × Int × α)) : Prop :=
  ∀ row column, valuesAt sums row column = (sum? (valuesAt listed row column)).toList

theorem Condenses.exists_of_mem {listed sums : List (Int × Int × α)}
    (condenses : Condenses listed sums) {entry : Int × Int × α} (member : entry ∈ sums) :
    ∃ x, (entry.1, entry.2.1, x) ∈ listed := by
  have held : entry.2.2 ∈ (sum? (valuesAt listed entry.1 entry.2.1)).toList :=
    condenses entry.1 entry.2.1 ▸ mem_valuesAt.mpr member
  have some : valuesAt listed entry.1 entry.2.1 ≠ [] := by
    intro none
    rw [(sum?_eq_none_iff _).mpr none] at held
    cases held
  obtain ⟨x, listedMember⟩ := List.exists_mem_of_ne_nil _ some
  exact ⟨x, mem_valuesAt.mp listedMember⟩

/-- The entries that a sheet lists, their sums, and extents that fit 64 bits and hold the
entries. -/
structure Sheet.Contributes (sheet : Sheet γ α) (listed sums : List (Int × Int × α)) : Prop where
  read : sheet.entries (·.modelCell) = .ok listed
  condenses : Condenses listed sums
  addressable : ∃ rowExtent columnExtent, sheet.modelExtent.toInteger = .ok rowExtent ∧
    sheet.heightExtent = .ok columnExtent ∧ word rowExtent = .ok rowExtent ∧
    word columnExtent = .ok columnExtent ∧ ∀ entry ∈ listed, Inside rowExtent columnExtent entry

/-- The integer extents of a sheet that was added fit 64 bits. -/
theorem Sheet.Contributes.words {sheet : Sheet γ α} {listed sums : List (Int × Int × α)}
    (contributes : sheet.Contributes listed sums) {modelExtent heightPoints : Int}
    (extent : sheet.modelExtent = .int modelExtent)
    (heights : sheet.heightPoints = .int heightPoints) :
    word modelExtent = .ok modelExtent ∧
      word (heightPoints * modelExtent) = .ok (heightPoints * modelExtent) := by
  obtain ⟨_, _, rowRead, columnRead, rowWord, columnWord, _⟩ := contributes.addressable
  rw [extent] at rowRead
  cases rowRead
  rw [heightExtent, heightSpace_eq extent heights] at columnRead
  cases columnRead
  exact ⟨rowWord, columnWord⟩

theorem addSheet_eq_ok {sheet : Sheet γ α} {builder changed : SparseBuilder α}
    {areas after : Accumulator α} {earlier : List (Int × Int × α)}
    (collects : builder.Collects earlier)
    (done : addSheet sheet (builder, areas) = .ok (changed, after)) :
    ∃ listed sums, sheet.Contributes listed sums ∧ after = areas.addAll listed ∧
      changed.Collects (earlier ++ sums) := by
  obtain ⟨⟨operator, between⟩, made, rest⟩ := bind_eq_ok done
  obtain ⟨native, nativeRead, rest⟩ := bind_eq_ok rest
  obtain ⟨⟨_, builderAfter⟩, added, same⟩ := bind_eq_ok rest
  cases same
  obtain ⟨listed, rowExtent, columnExtent, read, rfl, rowRead, columnRead, assembles, inside⟩ :=
    Sheet.heightToModel_eq_ok made
  have stores := assembles.stores
  obtain ⟨_, _, nativeRest⟩ := bind_eq_ok nativeRead
  obtain ⟨_, _, nativeRest⟩ := bind_eq_ok nativeRest
  obtain ⟨_, _, nativeRest⟩ := bind_eq_ok nativeRest
  obtain ⟨_, rowWord, nativeRest⟩ := bind_eq_ok nativeRest
  obtain ⟨_, columnWord, _⟩ := bind_eq_ok nativeRest
  rw [assembles.nativeShape] at rowWord columnWord
  obtain rfl := word_eq_ok rowWord
  obtain rfl := word_eq_ok columnWord
  refine ⟨listed, operator.nativeEntries, ⟨read, stores.valuesAt_nativeEntries, _, _, rowRead,
    columnRead, rowWord, columnWord, inside⟩, rfl, ?_⟩
  rw [← stores.toNative nativeRead]
  exact collects.addedEntries (whole_eq_ok_iff.mp added)

theorem foldlM_addSheet_eq_ok {sheets : List (Sheet γ α)} {builder changed : SparseBuilder α}
    {areas after : Accumulator α} {earlier : List (Int × Int × α)}
    (collects : builder.Collects earlier)
    (done : sheets.foldlM (fun state sheet => addSheet sheet state) (builder, areas) =
      .ok (changed, after)) :
    ∃ parts : List (List (Int × Int × α) × List (Int × Int × α)),
      List.Forall₂ (fun sheet part => sheet.Contributes part.1 part.2) sheets parts ∧
      after = areas.addAll (parts.flatMap (·.1)) ∧
      changed.Collects (earlier ++ parts.flatMap (·.2)) := by
  induction sheets generalizing builder areas earlier with
  | nil =>
      cases done
      exact ⟨[], .nil, rfl, by simpa using collects⟩
  | cons sheet rest inductionHypothesis =>
      rw [List.foldlM_cons] at done
      obtain ⟨⟨middle, between⟩, first, later⟩ := bind_eq_ok done
      obtain ⟨listed, sums, contributes, rfl, collected⟩ := addSheet_eq_ok collects first
      obtain ⟨parts, each, rfl, all⟩ := inductionHypothesis collected later
      refine ⟨(listed, sums) :: parts, .cons contributes each, ?_, by simpa using all⟩
      rw [List.flatMap_cons, Accumulator.addAll_append]

/-- The reciprocal of an area, and zero where the area vanishes. -/
def reciprocal (area : α) : α :=
  if Scalar.isZero area then Scalar.zero else Scalar.one / area

/-- The averages of several sheets on model cells are those over the sums of all sheets, each row
scaled with the area that all sheets added up. -/
theorem heightToModel_eq_ok {modelExtent : Int} {heightPoints : Value} {sheets : List (Sheet γ α)}
    {operator : DenseOperator α} {areas : Accumulator α}
    (done : heightToModel modelExtent heightPoints sheets = .ok (operator, areas)) :
    ∃ (parts : List (List (Int × Int × α) × List (Int × Int × α))) (columnExtent : Int)
      (assembled : DenseOperator α),
      List.Forall₂ (fun sheet part => sheet.Contributes part.1 part.2) sheets parts ∧
      areas = Accumulator.addAll {} (parts.flatMap (·.1)) ∧
      (do (← heightPoints.mul (.int modelExtent)).toInteger) = .ok columnExtent ∧
      assembled.Assembles (parts.flatMap (·.2)) modelExtent columnExtent ∧
      assembled.scaleRows (.ofList (assembled.axes.rows.natives.map fun native =>
        reciprocal ((areas.get? native).getD Scalar.zero))) = .ok operator ∧
      (0 ≤ modelExtent ∧ 0 ≤ columnExtent) ∧
      ∀ entry ∈ parts.flatMap (·.2), Inside modelExtent columnExtent entry := by
  obtain ⟨⟨builder, after⟩, folded, rest⟩ := bind_eq_ok done
  obtain ⟨space, spaceRead, rest⟩ := bind_eq_ok rest
  obtain ⟨shaped, fixed, rest⟩ := bind_eq_ok rest
  obtain ⟨assembled, assembledDone, rest⟩ := bind_eq_ok rest
  obtain ⟨scaled, scaledDone, same⟩ := bind_eq_ok rest
  cases same
  obtain ⟨parts, each, summed, collected⟩ :=
    foldlM_addSheet_eq_ok SparseBuilder.collects_empty folded
  rw [List.nil_append] at collected
  obtain ⟨rowExtent, columnExtent, rowRead, columnRead, rfl, natural, inside⟩ :=
    Sheet.fixedShape_eq_ok collected fixed
  cases rowRead
  rw [reciprocals, List.map_map] at scaledDone
  refine ⟨parts, columnExtent, assembled, each, summed, ?_, ⟨builder, collected, assembledDone⟩,
    scaledDone, natural, inside⟩
  simp only [spaceRead, bind, Except.bind, columnRead]

/-- A sheet lists entries inside natural extents that fit 64 bits. -/
structure Sheet.Offers (sheet : Sheet γ α) (modelExtent heightPoints : Int)
    (listed : List (Int × Int × α)) : Prop extends sheet.Lists modelExtent heightPoints listed where
  modelNatural : 0 ≤ modelExtent
  spaceNatural : 0 ≤ heightPoints * modelExtent
  modelWord : word modelExtent = .ok modelExtent
  spaceWord : word (heightPoints * modelExtent) = .ok (heightPoints * modelExtent)

theorem Sheet.Offers.exists_addSheet {sheet : Sheet γ α} {modelExtent heightPoints : Int}
    {listed : List (Int × Int × α)} (offers : sheet.Offers modelExtent heightPoints listed)
    {builder : SparseBuilder α} {earlier : List (Int × Int × α)}
    (collects : builder.Collects earlier) (areas : Accumulator α) :
    ∃ changed after, addSheet sheet (builder, areas) = .ok (changed, after) := by
  have modelWord := offers.modelWord
  have spaceWord := offers.spaceWord
  obtain ⟨operator, made⟩ := offers.exists_heightToModel offers.modelNatural offers.spaceNatural
    areas
  obtain ⟨others, rowExtent, columnExtent, read, _, rowRead, columnRead, assembles, _⟩ :=
    heightToModel_eq_ok made
  obtain rfl := Except.ok.inj (offers.read.symm.trans read)
  rw [offers.extent] at rowRead
  cases rowRead
  rw [heightExtent, heightSpace_eq offers.extent offers.heights] at columnRead
  cases columnRead
  have stores := assembles.stores
  have rowWords : operator.axes.rows.nativeWords = .ok operator.axes.rows.natives := by
    refine (mapM_eq_ok_iff ..).mpr (List.forall₂_same.mpr fun native member => ?_)
    obtain ⟨entry, entryMember, rfl⟩ :=
      List.mem_map.mp ((assembles.mem_natives_iff native).1.mp member)
    have bounds := (offers.inside entry entryMember).1
    exact word_of_lt bounds.1 bounds.2 modelWord
  have columnWords : operator.axes.columns.nativeWords = .ok operator.axes.columns.natives := by
    refine (mapM_eq_ok_iff ..).mpr (List.forall₂_same.mpr fun native member => ?_)
    obtain ⟨entry, entryMember, rfl⟩ :=
      List.mem_map.mp ((assembles.mem_natives_iff native).2.mp member)
    have bounds := (offers.inside entry entryMember).2
    exact word_of_lt bounds.1 bounds.2 spaceWord
  have native := DenseOperator.toNative_of_words stores.rowCount stores.columnsBelow rowWords
    columnWords
  rw [assembles.nativeShape, modelWord, spaceWord] at native
  obtain ⟨changed, added⟩ := collects.exists_addEntries
    ⟨(modelExtent, heightPoints * modelExtent), operator.nativeEntries⟩ fun entry member => by
      have condenses : Condenses listed operator.nativeEntries := stores.valuesAt_nativeEntries
      obtain ⟨x, listedMember⟩ := condenses.exists_of_mem member
      have bounds := offers.inside _ listedMember
      exact ⟨bounds.1.1, bounds.2.1⟩
  refine ⟨changed, areas.addAll listed, ?_⟩
  rw [addSheet]
  simp only [made, native, bind, Except.bind, pure, Except.pure, whole_of_ok added]

theorem exists_foldlM_addSheet {sheets : List (Sheet γ α)} {lists : List (List (Int × Int × α))}
    (each : List.Forall₂ (fun sheet listed => ∃ modelExtent heightPoints,
      sheet.Offers modelExtent heightPoints listed) sheets lists)
    {builder : SparseBuilder α} {earlier : List (Int × Int × α)}
    (collects : builder.Collects earlier) (areas : Accumulator α) :
    ∃ state, sheets.foldlM (fun state sheet => addSheet sheet state) (builder, areas) =
      .ok state := by
  induction each generalizing builder areas earlier with
  | nil => exact ⟨(builder, areas), rfl⟩
  | cons first _ inductionHypothesis =>
      obtain ⟨_, _, offers⟩ := first
      obtain ⟨middle, between, done⟩ := offers.exists_addSheet collects areas
      obtain ⟨_, _, _, _, collected⟩ := addSheet_eq_ok collects done
      obtain ⟨state, later⟩ := inductionHypothesis collected between
      refine ⟨state, ?_⟩
      rw [List.foldlM_cons, done]
      exact later

omit [Scalar α] in
/-- With at least one height point, the extents fit 64 bits if height-point space does. -/
theorem addressable_of_fits {sheets : List (Sheet γ α)} {modelExtent heightPoints : Int}
    (modelNatural : 0 ≤ modelExtent) (enough : sheets ≠ [] → 1 ≤ heightPoints)
    (fits : heightPoints * modelExtent < -Scalar.leastInt64) :
    sheets = [] ∨ (word modelExtent = .ok modelExtent ∧
      word (heightPoints * modelExtent) = .ok (heightPoints * modelExtent)) := by
  by_cases none : sheets = []
  · exact .inl none
  · have covers := Int.mul_le_mul_of_nonneg_right (enough none) modelNatural
    rw [one_mul] at covers
    have natural : Scalar.leastInt64 ≤ 0 := by decide
    exact .inr ⟨if_pos ⟨by omega, by omega⟩, if_pos ⟨by omega, fits⟩⟩

/-- The averages on model cells are made if the entries of all sheets lie inside the native
shape. -/
theorem exists_heightToModel_of_inside {sheets : List (Sheet γ α)} {modelExtent : Int}
    {heightPoints : Value} {columnExtent : Int} {lists : List (List (Int × Int × α))}
    (each : List.Forall₂ (fun sheet listed => ∃ modelExtent heightPoints,
      sheet.Offers modelExtent heightPoints listed) sheets lists)
    (natural : 0 ≤ modelExtent ∧ 0 ≤ columnExtent)
    (space : heightPoints.mul (.int modelExtent) = .ok (.int columnExtent))
    (inside : ∀ entry ∈ lists.flatten, Inside modelExtent columnExtent entry) :
    ∃ operator areas, heightToModel modelExtent heightPoints sheets = .ok (operator, areas) := by
  obtain ⟨⟨builder, areas⟩, folded⟩ :=
    exists_foldlM_addSheet each SparseBuilder.collects_empty {}
  obtain ⟨parts, contributes, _, collected⟩ :=
    foldlM_addSheet_eq_ok SparseBuilder.collects_empty folded
  have partsInside : ∀ entry ∈ parts.flatMap (·.2), Inside modelExtent columnExtent entry := by
    intro entry member
    obtain ⟨part, partMember, inPart⟩ := List.mem_flatMap.mp member
    obtain ⟨sheet, sheetMember, contribution⟩ := exists_item_of_mem contributes partMember
    obtain ⟨listed, listMember, _, _, offers⟩ := exists_answer_of_mem each sheetMember
    obtain rfl := Except.ok.inj (offers.read.symm.trans contribution.read)
    obtain ⟨x, listedMember⟩ := contribution.condenses.exists_of_mem inPart
    have bounds := inside (entry.1, entry.2.1, x)
      (List.mem_flatten.mpr ⟨_, listMember, listedMember⟩)
    exact ⟨bounds.1, bounds.2⟩
  have shaped := Sheet.fixedShape_of_inside collected natural.1 natural.2
    fun entry member => ⟨(partsInside entry member).1.2, (partsInside entry member).2.2⟩
  obtain ⟨assembled, assembledDone, assembles⟩ :=
    collected.exists_toOperator modelExtent columnExtent
  have counted : (reciprocals (assembled.axes.rows.natives.map fun native =>
      (areas.get? native).getD Scalar.zero)).length = assembled.matrix.rows.length := by
    simp [reciprocals, assembles.stores.rowCount]
  obtain ⟨scaled, scaledDone⟩ := assembles.stores.exists_scaleRows counted
  refine ⟨scaled, areas, ?_⟩
  rw [heightToModel, folded, space]
  simp only [bind, Except.bind, shaped, assembledDone, scaledDone]
  rfl

/-- The averages on model cells are made if the extents fit 64 bits, unless there is no sheet. -/
theorem exists_heightToModel {sheets : List (Sheet γ α)} {modelExtent heightPoints : Int}
    {lists : List (List (Int × Int × α))}
    (each : List.Forall₂ (fun sheet listed => sheet.Lists modelExtent heightPoints listed) sheets
      lists)
    (modelNatural : 0 ≤ modelExtent) (spaceNatural : 0 ≤ heightPoints * modelExtent)
    (addressable : sheets = [] ∨ (word modelExtent = .ok modelExtent ∧
      word (heightPoints * modelExtent) = .ok (heightPoints * modelExtent))) :
    ∃ operator areas, heightToModel modelExtent (.int heightPoints) sheets =
      .ok (operator, areas) := by
  have inside : ∀ entry ∈ lists.flatten,
      Inside modelExtent (heightPoints * modelExtent) entry := by
    intro entry member
    obtain ⟨listed, listMember, inList⟩ := List.mem_flatten.mp member
    obtain ⟨_, _, sheetLists⟩ := exists_item_of_mem each listMember
    exact sheetLists.inside entry inList
  refine exists_heightToModel_of_inside ?_ ⟨modelNatural, spaceNatural⟩ (Value.mul_int _ _) inside
  rcases addressable with rfl | ⟨modelWord, spaceWord⟩
  · cases each
    exact .nil
  · exact each.imp fun _ _ sheetLists => ⟨_, _,
      { sheetLists with modelNatural, spaceNatural, modelWord, spaceWord }⟩

/-- The averages on model cells are made exactly if the size of height-point space is natural, and
fits 64 bits unless there is no sheet. -/
theorem exists_heightToModel_iff {sheets : List (Sheet γ α)} {modelExtent heightPoints : Int}
    {lists : List (List (Int × Int × α))}
    (each : List.Forall₂ (fun sheet listed => sheet.Lists modelExtent heightPoints listed) sheets
      lists)
    (modelNatural : 0 ≤ modelExtent) (enough : sheets ≠ [] → 1 ≤ heightPoints) :
    (∃ operator areas, heightToModel modelExtent (.int heightPoints) sheets =
        .ok (operator, areas)) ↔
      0 ≤ heightPoints * modelExtent ∧
        (sheets = [] ∨ heightPoints * modelExtent < -Scalar.leastInt64) := by
  constructor
  · rintro ⟨operator, areas, done⟩
    obtain ⟨_, _, _, contributions, _, columnRead, _, _, ⟨_, spaceNatural⟩, _⟩ :=
      heightToModel_eq_ok done
    cases columnRead
    refine ⟨spaceNatural, ?_⟩
    cases contributions with
    | nil => exact .inl rfl
    | cons first _ =>
        cases each with
        | cons lists _ =>
            obtain ⟨_, spaceWord⟩ := first.words lists.extent lists.heights
            exact .inr (word_eq_ok_iff.mp spaceWord).2.2
  · rintro ⟨spaceNatural, fits⟩
    refine exists_heightToModel each modelNatural spaceNatural ?_
    exact fits.elim .inl (addressable_of_fits modelNatural enough)

end Regrid
