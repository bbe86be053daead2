import Regrid.Proofs.Coupling.Rearrangement
import Regrid.Proofs.Shared.Filtering

/-!
Contract: what a coupling computes depends on the ice under its exchange cells, and not on how it
is stored.

Owns:
- that sheets which present the same sums, in any order, have the same covered areas and the same
  averages on model cells;
- that a coupling is realized, and computes the same, when its exchange cells come into another
  description and its sheets into another order;
- that adding the sheets of a coupling in another order does no more than that.

Does not own: what one sheet computes.

The two couplings are seen in two spaces, which may place their meshes and sheets differently. They
are compared after both have listed their overlaps anew.
-/

namespace Regrid

open Attempt

/-! ### Several sheets -/

/-- The items of one list are related to those of another one, in some order. -/
def Corresponds {ι κ : Type} (R : ι → κ → Prop) : List ι → List κ → Prop :=
  Relation.Comp (List.Forall₂ R) List.Perm

namespace Corresponds

variable {ι κ : Type} {R : ι → κ → Prop} {items : List ι} {others : List κ}

theorem imp {S : ι → κ → Prop} (corresponds : Corresponds R items others)
    (each : ∀ item ∈ items, ∀ other ∈ others, R item other → S item other) :
    Corresponds S items others := by
  obtain ⟨middle, related, perm⟩ := corresponds
  have listed := (List.forall₂_and_left ..).mpr
    ⟨fun item (member : item ∈ items) => member, related⟩
  have both := (List.forall₂_and_left ..).mpr
    ⟨fun other (member : other ∈ middle) => perm.mem_iff.mp member, listed.flip⟩
  have implied : List.Forall₂ (fun other item => S item other) middle items :=
    both.imp fun other item facts => each item facts.2.1 other facts.1 facts.2.2
  exact ⟨middle, implied.flip, perm⟩

theorem symm (corresponds : Corresponds R items others) :
    Corresponds (fun other item => R item other) others items := by
  obtain ⟨middle, related, perm⟩ := corresponds
  exact List.perm_comp_forall₂ perm.symm related.flip

theorem of_perm {items others : List ι} {R : ι → ι → Prop} (perm : items.Perm others)
    (each : ∀ item ∈ items, R item item) : Corresponds R items others :=
  ⟨items, List.forall₂_same.mpr each, perm⟩

theorem map {τ υ : Type} {S : τ → υ → Prop} {f : ι → τ} {g : κ → υ}
    (corresponds : Corresponds (fun item other => S (f item) (g other)) items others) :
    Corresponds S (items.map f) (others.map g) := by
  obtain ⟨middle, related, perm⟩ := corresponds
  exact ⟨middle.map g, List.forall₂_map_left_iff.mpr (List.forall₂_map_right_iff.mpr related),
    perm.map g⟩

end Corresponds

/-- Sheets correspond to others that present the same sums. -/
def SheetsAlike (sheets others : List (Sheet (Grid Rat) Rat)) : Prop :=
  Corresponds (fun sheet other => ∃ modelExtent heightPoints,
    sheet.Alike other modelExtent heightPoints) sheets others

namespace SheetsAlike

variable {sheets others : List (Sheet (Grid Rat) Rat)}

theorem symm (alike : SheetsAlike sheets others) : SheetsAlike others sheets :=
  (Corresponds.symm alike).imp fun _ _ _ _ ⟨modelExtent, heightPoints, own⟩ =>
    ⟨modelExtent, heightPoints, own.symm⟩

/-- All entries together have the same sums. -/
theorem exists_entries (alike : SheetsAlike sheets others) : ∃ lists otherLists,
    List.Forall₂ (fun sheet listed => sheet.entries (·.modelCell) = .ok listed) sheets lists ∧
    List.Forall₂ (fun sheet listed => sheet.entries (·.modelCell) = .ok listed) others otherLists ∧
    SameSums lists.flatten otherLists.flatten := by
  obtain ⟨middle, related, perm⟩ := alike
  obtain ⟨lists, middleLists, read, middleRead, same⟩ : ∃ lists middleLists,
      List.Forall₂ (fun sheet listed => sheet.entries (·.modelCell) = .ok listed) sheets lists ∧
      List.Forall₂ (fun sheet listed => sheet.entries (·.modelCell) = .ok listed) middle
        middleLists ∧ SameSums lists.flatten middleLists.flatten := by
    clear perm
    induction related with
    | nil => exact ⟨[], [], .nil, .nil, .refl _⟩
    | cons first _ inductionHypothesis =>
        obtain ⟨_, _, own⟩ := first
        obtain ⟨pieces, otherPieces, presents, otherPresents, sameModel, _⟩ := own.pieces
        obtain ⟨lists, middleLists, read, middleRead, same⟩ := inductionHypothesis
        exact ⟨_, _, .cons presents.lists.read read, .cons otherPresents.lists.read middleRead,
          sameModel.append same⟩
  obtain ⟨otherLists, otherRead, otherPerm⟩ := List.perm_comp_forall₂ perm.symm middleRead
  exact ⟨lists, otherLists, read, otherRead,
    same.trans (sameSums_of_perm otherPerm.symm.flatten)⟩

/-- The covered areas are the same. -/
theorem coveredAreas (alike : SheetsAlike sheets others) : ∃ areas otherAreas,
    Regrid.coveredAreas sheets = .ok areas ∧ Regrid.coveredAreas others = .ok otherAreas ∧
    ∀ cell, areas.get? cell = otherAreas.get? cell := by
  obtain ⟨lists, otherLists, read, otherRead, same⟩ := alike.exists_entries
  exact ⟨_, _, coveredAreas_of_entries read, coveredAreas_of_entries otherRead,
    same.get?_addAll {}⟩

/-- Where both have averages on model cells, these have the same values. -/
theorem sameValues (alike : SheetsAlike sheets others) {modelExtent : Int} {heightPoints : Value}
    {operator other : DenseOperator Rat} {areas otherAreas : Accumulator Rat}
    (done : Regrid.heightToModel modelExtent heightPoints sheets = .ok (operator, areas))
    (otherDone : Regrid.heightToModel modelExtent heightPoints others = .ok (other, otherAreas)) :
    operator.SameValues other ∧ ∀ cell, areas.get? cell = otherAreas.get? cell := by
  obtain ⟨lists, otherLists, read, otherRead, same⟩ := alike.exists_entries
  obtain ⟨entries, _, _, averages, condensed, sums⟩ := heightToModel_averages read done
  obtain ⟨otherEntries, _, _, otherAverages, otherCondensed, otherSums⟩ :=
    heightToModel_averages otherRead otherDone
  refine ⟨averages.sameValues otherAverages
    ((condensed.trans same).trans otherCondensed.symm), fun cell => ?_⟩
  rw [sums.held, otherSums.held, same.rowWeight_eq]
  simp only [same.rows]

/-- Where one has averages on model cells, so has the other. -/
theorem exists_heightToModel (alike : SheetsAlike sheets others) {modelExtent heightPoints : Int}
    {operator : DenseOperator Rat} {areas : Accumulator Rat}
    (done : Regrid.heightToModel modelExtent (.int heightPoints) sheets = .ok (operator, areas)) :
    ∃ other otherAreas, Regrid.heightToModel modelExtent (.int heightPoints) others =
      .ok (other, otherAreas) := by
  obtain ⟨parts, columnExtent, _, contributions, _, columnRead, _, _, natural, inside⟩ :=
    heightToModel_eq_ok done
  obtain ⟨lists, otherLists, read, otherRead, same⟩ := alike.exists_entries
  obtain ⟨_, condensed⟩ := sameSums_of_contributes read contributions
  cases columnRead
  have otherInside : ∀ entry ∈ otherLists.flatten,
      Inside modelExtent (heightPoints * modelExtent) entry := by
    intro entry member
    obtain ⟨x, found⟩ := (condensed.trans same).exists_of_mem member
    exact ⟨(inside _ found).1, (inside _ found).2⟩
  -- a sheet that is like one which was added has the extents of that one, which fit 64 bits
  have addressable : ∀ other ∈ others, ∃ modelExtent heightPoints, ∀ listed,
      other.entries (·.modelCell) = .ok listed → other.Offers modelExtent heightPoints listed := by
    intro other member
    obtain ⟨middle, related, perm⟩ := alike
    obtain ⟨sheet, sheetMember, ownExtent, ownHeights, own⟩ :=
      exists_item_of_mem related (perm.mem_iff.mpr member)
    obtain ⟨part, _, contribution⟩ := exists_answer_of_mem contributions sheetMember
    obtain ⟨_, _, presents, otherPresents, _⟩ := own.pieces
    obtain ⟨modelWord, spaceWord⟩ := contribution.words presents.extent presents.heights
    refine ⟨ownExtent, ownHeights, fun listed otherEntries => ?_⟩
    obtain rfl := Except.ok.inj (otherPresents.lists.read.symm.trans otherEntries)
    exact { otherPresents.lists with
      modelNatural := otherPresents.modelNatural
      spaceNatural := otherPresents.spaceNatural
      modelWord, spaceWord }
  refine exists_heightToModel_of_inside
    (((List.forall₂_and_left ..).mpr ⟨addressable, otherRead⟩).imp ?_) natural
    (Value.mul_int _ _) otherInside
  rintro other listed ⟨⟨ownExtent, ownHeights, own⟩, listedRead⟩
  exact ⟨ownExtent, ownHeights, own listed listedRead⟩

end SheetsAlike

/-! ### Couplings -/

namespace CouplingSpace

variable {before after : CouplingSpace Rat} {ref other : Ref (Coupling Rat)}

/-- A coupling stores the ice of another one differently: its sheets have the exchange cells in
another description, and stand in another order. -/
structure Rearranges (before : CouplingSpace Rat) (ref : Ref (Coupling Rat))
    (after : CouplingSpace Rat) (other : Ref (Coupling Rat)) : Prop where
  modelExtent : after.modelExtent other = before.modelExtent ref
  heightPoints :
    (after.couplings.get other).heightPoints = (before.couplings.get ref).heightPoints
  sheets : Corresponds (fun entry otherEntry => otherEntry.1 = entry.1 ∧
      (before.viewSheet entry.2).Rearranges (after.viewSheet otherEntry.2))
    (before.couplings.get ref).sheets (after.couplings.get other).sheets

/-! ### The order of adding -/

/-- Some sheets were added to a coupling, one after the other. -/
structure Adds (ref : Ref (Coupling Rat)) (sheets : List (Ref (SharedSheet Rat)))
    (space after : CouplingSpace Rat) : Prop where
  meshes : after.meshes = space.meshes
  coupling : after.couplings.get ref = { space.couplings.get ref with
    sheets := (space.couplings.get ref).sheets ++
      sheets.map fun sheet => ((space.sheets.get sheet).name, sheet) }
  added : ∀ sheet ∈ sheets, ∃ index, after.sheets.get sheet = { space.sheets.get sheet with
    index
    modelExtent := .int (space.modelExtent ref)
    heightPoints := (space.couplings.get ref).heightPoints }
  others : ∀ sheet, sheet ∉ sheets → after.sheets.get sheet = space.sheets.get sheet
  held : ∀ sheet, after.sheets.Holds sheet ↔ space.sheets.Holds sheet

theorem Adds.modelExtent {sheets : List (Ref (SharedSheet Rat))}
    (adds : Adds ref sheets before after) : after.modelExtent ref = before.modelExtent ref := by
  rw [CouplingSpace.modelExtent, adds.meshes, adds.coupling]
  rfl

theorem adds_joinSheet (held : before.couplings.Holds ref) {sheet : Ref (SharedSheet Rat)}
    (sheetHeld : before.sheets.Holds sheet) :
    Adds ref [sheet] before (before.joinSheet ref sheet) where
  meshes := rfl
  coupling := Heap.get_set_same held _
  added := by
    intro other member
    obtain rfl := List.mem_singleton.mp member
    exact ⟨_, Heap.get_set_same sheetHeld _⟩
  others := fun other outside => Heap.get_set_other (mt List.mem_singleton.mpr outside) ..
  held := fun _ => Heap.holds_set

theorem Adds.cons {sheet : Ref (SharedSheet Rat)} {rest : List (Ref (SharedSheet Rat))}
    {between : CouplingSpace Rat} (first : Adds ref [sheet] before between)
    (later : Adds ref rest between after) : Adds ref (sheet :: rest) before after := by
  have extent := first.modelExtent
  have heights : (between.couplings.get ref).heightPoints =
      (before.couplings.get ref).heightPoints := by rw [first.coupling]
  have names : ∀ other, (between.sheets.get other).name = (before.sheets.get other).name := by
    intro other
    by_cases own : other ∈ [sheet]
    · obtain ⟨index, same⟩ := first.added other own
      rw [same]
    · rw [first.others other own]
  refine ⟨later.meshes.trans first.meshes, ?_, ?_, ?_,
    fun other => (later.held other).trans (first.held other)⟩
  · rw [later.coupling, first.coupling]
    simp only [names, List.map_cons, List.map_nil, List.append_assoc, List.singleton_append]
  · intro other member
    by_cases again : other ∈ rest
    · obtain ⟨index, same⟩ := later.added other again
      rw [extent, heights] at same
      by_cases own : other ∈ [sheet]
      · obtain ⟨place, before⟩ := first.added other own
        rw [before] at same
        exact ⟨index, same⟩
      · rw [first.others other own] at same
        exact ⟨index, same⟩
    · rw [later.others other again]
      have own : other ∈ [sheet] :=
        List.mem_singleton.mpr ((List.mem_cons.mp member).resolve_right again)
      exact first.added other own
  · intro other outside
    rw [later.others other fun member => outside (List.mem_cons_of_mem _ member),
      first.others other fun own => outside (List.mem_singleton.mp own ▸ List.mem_cons_self ..)]

/-- What a loop leaves that adds sheets and is not refused. -/
theorem adds_of_forM {space : CouplingSpace Rat} (held : space.couplings.Holds ref)
    {sheets : List (Ref (SharedSheet Rat))}
    (sheetsHeld : ∀ sheet ∈ sheets, space.sheets.Holds sheet)
    (done : Attempt.outcome (sheets.forM (addSheet ref)) space = (.ok (), after)) :
    Adds ref sheets space after := by
  induction sheets generalizing space with
  | nil =>
      cases done
      exact ⟨rfl, by simp, nofun, fun _ _ => rfl, fun _ => Iff.rfl⟩
  | cons sheet rest inductionHypothesis =>
      obtain ⟨_, between, first, later⟩ := outcome_bind_eq_ok done
      rw [outcome_addSheet] at first
      split at first
      · cases first
        exact (adds_joinSheet held (sheetsHeld sheet (by simp))).cons
          (inductionHypothesis (Heap.holds_set.mpr held)
            (fun other member => Heap.holds_set.mpr (sheetsHeld other (by simp [member]))) later)
      · cases first
      · cases first

/-- The same sheets in another order make a coupling that stores the same ice differently. -/
theorem Adds.rearranges {space : CouplingSpace Rat} {sheets others : List (Ref (SharedSheet Rat))}
    (adds : Adds ref sheets space before) (otherAdds : Adds ref others space after)
    (perm : sheets.Perm others) : before.Rearranges ref after ref := by
  have same : ∀ sheet, ∃ index, after.sheets.get sheet =
      { before.sheets.get sheet with index } := by
    intro sheet
    by_cases member : sheet ∈ sheets
    · obtain ⟨_, own⟩ := adds.added sheet member
      obtain ⟨place, other⟩ := otherAdds.added sheet (perm.mem_iff.mp member)
      exact ⟨place, by rw [own, other]⟩
    · rw [adds.others sheet member, otherAdds.others sheet (mt perm.mem_iff.mpr member)]
      exact ⟨_, rfl⟩
  refine ⟨otherAdds.modelExtent.trans adds.modelExtent.symm, ?_, ?_⟩
  · rw [otherAdds.coupling, adds.coupling]
  · rw [otherAdds.coupling, adds.coupling]
    refine .of_perm ((perm.map _).append_left _) fun entry _ => ⟨rfl, ?_⟩
    obtain ⟨index, own⟩ := same entry.2
    have view : after.viewSheet entry.2 = { before.viewSheet entry.2 with index } := by
      rw [viewSheet, viewSheet, own, otherAdds.meshes, adds.meshes]
      rfl
    rw [view]
    exact ⟨⟨_, _, _, rfl⟩, rfl, .reordered (.refl _)⟩

/-- The sheets of the coupling have a place, whatever the order in which they were added. -/
theorem Adds.held_of_perm {space : CouplingSpace Rat}
    {sheets others : List (Ref (SharedSheet Rat))} (adds : Adds ref sheets space before)
    (otherAdds : Adds ref others space after) (perm : sheets.Perm others)
    (held : ∀ sheet ∈ before.sheetRefs ref, before.sheets.Holds sheet) :
    ∀ sheet ∈ after.sheetRefs ref, after.sheets.Holds sheet := by
  have sameSheets : (after.sheetRefs ref).Perm (before.sheetRefs ref) := by
    rw [sheetRefs, sheetRefs, otherAdds.coupling, adds.coupling]
    exact (((perm.symm.map _).append_left _).map _)
  intro sheet member
  exact (otherAdds.held sheet).mpr
    ((adds.held sheet).mp (held sheet (sameSheets.mem_iff.mp member)))

/-! ### Listing the overlaps anew -/

/-- The sheets of a coupling have a place, and can be realized. -/
structure CanRealize (space : CouplingSpace Rat) (ref : Ref (Coupling Rat)) : Prop where
  held : ∀ sheet ∈ space.sheetRefs ref, space.sheets.Holds sheet
  realizable : ∀ sheet ∈ space.sheetRefs ref, ∃ modelExtent heightPoints overlaps,
    (space.viewSheet sheet).Realizable modelExtent heightPoints overlaps

/-- The space in which the sheets of a coupling have listed their overlaps. -/
def realizedAt (space : CouplingSpace Rat) (ref : Ref (Coupling Rat)) : CouplingSpace Rat :=
  space.withOverlaps (fun sheet => some ((space.viewSheet sheet).listOverlaps.toOption.getD []))
    (space.sheetRefs ref)

theorem outcome_realizeAll_of_listed {space : CouplingSpace Rat}
    (listed : ∀ sheet ∈ space.sheetRefs ref, ∃ overlaps,
      (space.viewSheet sheet).listOverlaps = .ok overlaps) :
    (realizeAll ref).outcome space = (.ok (), space.realizedAt ref) := by
  refine outcome_realizeAll fun sheet member => ?_
  obtain ⟨overlaps, own⟩ := listed sheet member
  rw [own]
  rfl

theorem viewSheet_realizedAt {space : CouplingSpace Rat} {sheet : Ref (SharedSheet Rat)}
    (member : sheet ∈ space.sheetRefs ref) (held : space.sheets.Holds sheet)
    {overlaps : List (Overlap Rat)} (listed : (space.viewSheet sheet).listOverlaps = .ok overlaps) :
    (space.realizedAt ref).viewSheet sheet =
      { space.viewSheet sheet with overlaps := some overlaps } := by
  have own : (space.realizedAt ref).sheets.get sheet =
      { space.sheets.get sheet with overlaps := some overlaps } := by
    refine (Heap.get_adjust held _).trans ((if_pos member).trans ?_)
    simp only [listed, Except.toOption, Option.getD_some]
  rw [viewSheet, own]
  rfl

/-- Sheets that correspond present the same sums once they have listed their overlaps. -/
theorem Rearranges.alike (rearranges : before.Rearranges ref after other)
    (can : before.CanRealize ref)
    (held : ∀ sheet ∈ after.sheetRefs other, after.sheets.Holds sheet) :
    (∀ sheet ∈ after.sheetRefs other, ∃ own, (after.viewSheet sheet).listOverlaps = .ok own) ∧
      Corresponds (fun entry otherEntry => otherEntry.1 = entry.1 ∧
        ∃ modelExtent heightPoints, ((before.realizedAt ref).viewSheet entry.2).Alike
          ((after.realizedAt other).viewSheet otherEntry.2) modelExtent heightPoints)
      (before.couplings.get ref).sheets (after.couplings.get other).sheets := by
  have each : ∀ entry ∈ (before.couplings.get ref).sheets,
      ∀ otherEntry : Value × Ref (SharedSheet Rat),
        (before.viewSheet entry.2).Rearranges (after.viewSheet otherEntry.2) →
        ∃ modelExtent heightPoints overlaps own,
          (before.viewSheet entry.2).listOverlaps = .ok overlaps ∧
          (after.viewSheet otherEntry.2).listOverlaps = .ok own ∧
          { before.viewSheet entry.2 with overlaps := some overlaps }.Alike
            { after.viewSheet otherEntry.2 with overlaps := some own }
            modelExtent heightPoints := by
    intro entry member otherEntry own
    obtain ⟨modelExtent, heightPoints, overlaps, realizable⟩ :=
      can.realizable entry.2 (List.mem_map_of_mem member)
    obtain ⟨others, otherListed, alike⟩ := realizable.exists_alike own
    exact ⟨modelExtent, heightPoints, overlaps, others, realizable.listed, otherListed, alike⟩
  refine ⟨fun sheet sheetMember => ?_, rearranges.sheets.imp ?_⟩
  · obtain ⟨otherEntry, otherMember, rfl⟩ := List.mem_map.mp sheetMember
    obtain ⟨middle, related, perm⟩ := rearranges.sheets
    obtain ⟨entry, member, _, own⟩ := exists_item_of_mem related (perm.mem_iff.mpr otherMember)
    obtain ⟨_, _, _, others, _, listed, _⟩ := each entry member otherEntry own
    exact ⟨others, listed⟩
  · intro entry member otherEntry otherMember ⟨name, own⟩
    obtain ⟨modelExtent, heightPoints, overlaps, others, listed, otherListed, alike⟩ :=
      each entry member otherEntry own
    have inSheets : entry.2 ∈ before.sheetRefs ref := List.mem_map_of_mem member
    have inOthers : otherEntry.2 ∈ after.sheetRefs other := List.mem_map_of_mem otherMember
    refine ⟨name, modelExtent, heightPoints, ?_⟩
    rw [viewSheet_realizedAt inSheets (can.held _ inSheets) listed,
      viewSheet_realizedAt inOthers (held _ inOthers) otherListed]
    exact alike

/-! ### Operators of a coupling -/

/-- Two couplings compute the same: each sheet computes what the sheet of its name in the other
coupling computes, the covered areas are the same, the averages on model cells are made for both
or for none, and where they are made they and their areas are the same. -/
structure RegridsLike (before : CouplingSpace Rat) (ref : Ref (Coupling Rat))
    (after : CouplingSpace Rat) (other : Ref (Coupling Rat)) : Prop where
  sheets : Corresponds (fun entry otherEntry => otherEntry.1 = entry.1 ∧
      (before.viewSheet entry.2).ComputesLike (after.viewSheet otherEntry.2))
    (before.couplings.get ref).sheets (after.couplings.get other).sheets
  areas : ∃ areas otherAreas, before.coveredAreas ref = .ok areas ∧
    after.coveredAreas other = .ok otherAreas ∧ ∀ cell, areas.get? cell = otherAreas.get? cell
  answers : (∃ made, before.heightToModel ref = .ok made) ↔
    ∃ made, after.heightToModel other = .ok made
  values : ∀ operator areas otherOperator otherAreas,
    before.heightToModel ref = .ok (operator, areas) →
    after.heightToModel other = .ok (otherOperator, otherAreas) →
    operator.SameValues otherOperator ∧ ∀ cell, areas.get? cell = otherAreas.get? cell

/-- The sheets of a coupling have its extents, as those have that are added to it, and
height-point space fits 64 bits. -/
structure SharesExtents (space : CouplingSpace Rat) (ref : Ref (Coupling Rat))
    (heightPoints : Int) : Prop where
  modelNatural : 0 ≤ space.modelExtent ref
  heightsNatural : 0 ≤ heightPoints
  fits : heightPoints * space.modelExtent ref < -Scalar.leastInt64
  sheets : ∀ sheet ∈ space.sheetRefs ref,
    (space.sheets.get sheet).modelExtent = .int (space.modelExtent ref) ∧
      (space.sheets.get sheet).heightPoints = .int heightPoints

/-- Realized sheets with the extents of their coupling have averages on its model cells. -/
theorem CanRealize.exists_heightToModel {space : CouplingSpace Rat} {heightPoints : Int}
    (can : space.CanRealize ref) (shares : space.SharesExtents ref heightPoints)
    (heights : (space.couplings.get ref).heightPoints = .int heightPoints) :
    ∃ made, (space.realizedAt ref).heightToModel ref = .ok made := by
  have each : ∀ sheet ∈ (space.realizedAt ref).viewSheets ref, ∃ listed,
      1 ≤ heightPoints ∧ sheet.Lists (space.modelExtent ref) heightPoints listed := by
    intro view member
    obtain ⟨entry, entryMember, rfl⟩ := List.mem_map.mp member
    have inSheets : entry.2 ∈ space.sheetRefs ref := List.mem_map_of_mem entryMember
    obtain ⟨_, _, overlaps, realizable⟩ := can.realizable _ inSheets
    obtain ⟨extent, points⟩ := shares.sheets _ inSheets
    cases realizable.extent.symm.trans extent
    cases realizable.heights.symm.trans points
    obtain ⟨_, enough, _⟩ := realizable.realized.exists_pieces
    obtain ⟨pieces, _, presents⟩ := realizable.realized.exists_presents
    rw [viewSheet_realizedAt inSheets (can.held _ inSheets) realizable.listed]
    exact ⟨_, enough, presents.lists⟩
  obtain ⟨lists, listed⟩ := exists_forall₂ each
  have enough : (space.realizedAt ref).viewSheets ref ≠ [] → 1 ≤ heightPoints := by
    intro some
    obtain ⟨sheet, member⟩ := List.exists_mem_of_ne_nil _ some
    obtain ⟨_, own, _⟩ := each sheet member
    exact own
  obtain ⟨operator, areas, done⟩ :=
    (exists_heightToModel_iff (listed.imp fun _ _ own => own.2) shares.modelNatural enough).mpr
      ⟨Int.mul_nonneg shares.heightsNatural shares.modelNatural, .inr shares.fits⟩
  refine ⟨(operator, areas), ?_⟩
  rw [heightToModel, show (space.realizedAt ref).couplings = space.couplings from rfl, heights]
  exact done

/-- Once both have listed their overlaps anew, two couplings compute the same. Averages on model
cells are made if the sheets of the first one have its extents. -/
def RealizesLike (before : CouplingSpace Rat) (ref : Ref (Coupling Rat))
    (after : CouplingSpace Rat) (other : Ref (Coupling Rat)) (heightPoints : Int) : Prop :=
  ∃ realized otherRealized, (realizeAll ref).outcome before = (.ok (), realized) ∧
    (realizeAll other).outcome after = (.ok (), otherRealized) ∧
    realized.RegridsLike ref otherRealized other ∧
    (before.SharesExtents ref heightPoints →
      ∃ made, realized.heightToModel ref = .ok made)

theorem Rearranges.realizesLike (rearranges : before.Rearranges ref after other)
    (can : before.CanRealize ref)
    (held : ∀ sheet ∈ after.sheetRefs other, after.sheets.Holds sheet) {heightPoints : Int}
    (heights : (before.couplings.get ref).heightPoints = .int heightPoints) :
    before.RealizesLike ref after other heightPoints := by
  obtain ⟨otherListed, corresponds⟩ := rearranges.alike can held
  have listed : ∀ sheet ∈ before.sheetRefs ref, ∃ overlaps,
      (before.viewSheet sheet).listOverlaps = .ok overlaps := by
    intro sheet member
    obtain ⟨_, _, overlaps, realizable⟩ := can.realizable sheet member
    exact ⟨overlaps, realizable.listed⟩
  have alike : SheetsAlike ((before.realizedAt ref).viewSheets ref)
      ((after.realizedAt other).viewSheets other) :=
    Corresponds.map (corresponds.imp fun _ _ _ _ both => both.2)
  have model : (before.realizedAt ref).heightToModel ref = Regrid.heightToModel
      (before.modelExtent ref) (.int heightPoints) ((before.realizedAt ref).viewSheets ref) :=
    congrArg (Regrid.heightToModel (before.modelExtent ref) · _) heights
  have otherModel : (after.realizedAt other).heightToModel other = Regrid.heightToModel
      (before.modelExtent ref) (.int heightPoints) ((after.realizedAt other).viewSheets other) := by
    rw [← rearranges.modelExtent, ← heights, ← rearranges.heightPoints]
    rfl
  refine ⟨_, _, outcome_realizeAll_of_listed listed, outcome_realizeAll_of_listed otherListed,
    ⟨?_, alike.coveredAreas, ?_, ?_⟩, fun shares => can.exists_heightToModel shares heights⟩
  · exact corresponds.imp fun _ _ _ _ ⟨name, _, _, own⟩ => ⟨name, own.computesLike⟩
  · rw [model, otherModel]
    constructor
    · rintro ⟨⟨operator, areas⟩, done⟩
      obtain ⟨otherOperator, otherAreas, otherDone⟩ := alike.exists_heightToModel done
      exact ⟨_, otherDone⟩
    · rintro ⟨⟨operator, areas⟩, done⟩
      obtain ⟨otherOperator, otherAreas, otherDone⟩ := alike.symm.exists_heightToModel done
      exact ⟨_, otherDone⟩
  · intro operator areas otherOperator otherAreas done otherDone
    rw [model] at done
    rw [otherModel] at otherDone
    exact alike.sameValues done otherDone

/-- Realized anew, two couplings that store the same ice differently compute the same, and so do
those that the same sheets are added to in another order. -/
theorem rearranged_coupling_regrids_like :
    (∀ (before after : CouplingSpace Rat) (ref other : Ref (Coupling Rat)) (heightPoints : Int),
      before.Rearranges ref after other → before.CanRealize ref →
      (∀ sheet ∈ after.sheetRefs other, after.sheets.Holds sheet) →
      (before.couplings.get ref).heightPoints = .int heightPoints →
      before.RealizesLike ref after other heightPoints) ∧
    ∀ (space before after : CouplingSpace Rat) (ref : Ref (Coupling Rat))
      (sheets others : List (Ref (SharedSheet Rat))) (heightPoints : Int),
      space.couplings.Holds ref → (∀ sheet ∈ sheets, space.sheets.Holds sheet) →
      sheets.Perm others → Attempt.outcome (sheets.forM (addSheet ref)) space = (.ok (), before) →
      Attempt.outcome (others.forM (addSheet ref)) space = (.ok (), after) →
      before.CanRealize ref → (before.couplings.get ref).heightPoints = .int heightPoints →
      before.RealizesLike ref after ref heightPoints := by
  constructor
  · intro before after ref other heightPoints rearranges can held heights
    exact rearranges.realizesLike can held heights
  · intro space before after ref sheets others heightPoints placed sheetsHeld perm done otherDone
      can heights
    have adds := adds_of_forM placed sheetsHeld done
    have otherAdds := adds_of_forM placed
      (fun sheet member => sheetsHeld sheet (perm.mem_iff.mpr member)) otherDone
    exact (adds.rearranges otherAdds perm).realizesLike can
      (adds.held_of_perm otherAdds perm can.held) heights

/-- The sample with the overlap of its exchange cell in two parts of the other winding, under
numbers of their own, and with its sheets in the other order. -/
def rearrangedCoupling : CouplingSpace Rat where
  meshes :=
    { vertices := sampleCoupling.meshes.vertices
      cells := ⟨#[{ index := .int 0, area := 9 },
        { index := .int 5, i := .int 0, j := .int 0, area := 2 },
        { vertices := [.int 0, .int 1, .int 2], index := .int 0, area := 8 },
        { index := .int 3, i := .int 0, j := .int 0, area := 4 }]⟩
      grids := ⟨#[{ cells := Table.empty.push 0 ⟨0⟩ },
        { type := .exchange, cells := (Table.empty.push 5 ⟨1⟩).push 3 ⟨3⟩ },
        { parameterization := .onVertices
          vertices := ((Table.empty.push 0 ⟨0⟩).push 1 ⟨1⟩).push 2 ⟨2⟩
          cells := Table.empty.push 0 ⟨2⟩ }]⟩ }
  sheets := sampleCoupling.sheets
  couplings := ⟨#[
    { modelMesh := ⟨0⟩, heightPoints := .int 2
      sheets := [(.text "vertices", ⟨1⟩), (.text "cells", ⟨0⟩)] }]⟩

theorem sampleCoupling_canRealize : sampleCoupling.CanRealize ⟨0⟩ where
  held := by decide
  realizable := by
    intro sheet member
    rcases List.mem_cons.mp member with rfl | member
    · exact ⟨_, _, _, sampleCoupling_cells_realizable⟩
    · obtain rfl := List.mem_singleton.mp member
      exact ⟨_, _, _, sampleCoupling_vertices_realizable⟩

theorem rearrangedCoupling_cells :
    Rearranged (sampleCoupling.meshes.view ⟨1⟩).cells.items
      (rearrangedCoupling.meshes.view ⟨1⟩).cells.items := by
  show Rearranged [{ index := .int 0, i := .int 0, j := .int 0, area := -6 }]
    [{ index := .int 5, i := .int 0, j := .int 0, area := 2 },
      { index := .int 3, i := .int 0, j := .int 0, area := 4 }]
  refine (Rearranged.turned _ []).trans (.split ?_ ?_ ?_ ?_ [])
  · exact ⟨rfl, rfl⟩
  · exact ⟨rfl, rfl⟩
  · decide +kernel
  · decide +kernel

theorem rearrangedCoupling_rearranges :
    sampleCoupling.Rearranges ⟨0⟩ rearrangedCoupling ⟨0⟩ where
  modelExtent := rfl
  heightPoints := rfl
  sheets := ⟨_,
    .cons ⟨rfl, ⟨⟨_, _, _, rfl⟩, rfl, rearrangedCoupling_cells⟩⟩
      (.cons ⟨rfl, ⟨⟨_, _, _, rfl⟩, rfl, rearrangedCoupling_cells⟩⟩ .nil),
    List.Perm.swap ..⟩

/-- The sample before its sheets were added. -/
def unfilledSample : CouplingSpace Rat where
  meshes := sampleCoupling.meshes
  sheets := sampleCoupling.sheets
  couplings := ⟨#[{ modelMesh := ⟨0⟩, heightPoints := .int 2 }]⟩

theorem outcome_addSheet_of_new {space : CouplingSpace Rat} {sheet : Ref (SharedSheet Rat)}
    (new : (space.sheetNamed? ref (space.sheets.get sheet).name).toOption = some none) :
    (addSheet ref sheet).outcome space = (.ok (), space.joinSheet ref sheet) := by
  rw [outcome_addSheet, eq_ok_of_toOption new]

/-- The sample after its sheets were added. -/
def filledSample : CouplingSpace Rat :=
  (unfilledSample.joinSheet ⟨0⟩ ⟨0⟩).joinSheet ⟨0⟩ ⟨1⟩

theorem outcome_filledSample :
    Attempt.outcome ([⟨0⟩, ⟨1⟩].forM (addSheet ⟨0⟩)) unfilledSample = (.ok (), filledSample) :=
  (outcome_bind_of_ok (outcome_addSheet_of_new (by decide +kernel)) _).trans
    (outcome_bind_of_ok (outcome_addSheet_of_new (by decide +kernel)) _)

theorem outcome_turnedSample :
    Attempt.outcome ([⟨1⟩, ⟨0⟩].forM (addSheet ⟨0⟩)) unfilledSample =
      (.ok (), (unfilledSample.joinSheet ⟨0⟩ ⟨1⟩).joinSheet ⟨0⟩ ⟨0⟩) :=
  (outcome_bind_of_ok (outcome_addSheet_of_new (by decide +kernel)) _).trans
    (outcome_bind_of_ok (outcome_addSheet_of_new (by decide +kernel)) _)

theorem filledSample_canRealize : filledSample.CanRealize ⟨0⟩ where
  held := by decide
  realizable := by
    intro sheet member
    rcases List.mem_cons.mp member with rfl | member
    · exact ⟨_, _, _, { sampleCoupling_cells_realizable with }⟩
    · obtain rfl := List.mem_singleton.mp member
      exact ⟨_, _, _, { sampleCoupling_vertices_realizable with }⟩

/-- The sample and its other description are realized and compute the same, and have averages on
the model cell. So do the couplings that the sheets are added to in either order. -/
theorem rearranged_sample_regrids_like : (∃ realized otherRealized,
    (realizeAll ⟨0⟩).outcome sampleCoupling = (.ok (), realized) ∧
    (realizeAll ⟨0⟩).outcome rearrangedCoupling = (.ok (), otherRealized) ∧
    realized.RegridsLike ⟨0⟩ otherRealized ⟨0⟩ ∧
    ∃ made, realized.heightToModel ⟨0⟩ = .ok made) ∧
    ∃ after, Attempt.outcome ([⟨0⟩, ⟨1⟩].forM (addSheet ⟨0⟩)) unfilledSample =
        (.ok (), filledSample) ∧
      Attempt.outcome ([⟨1⟩, ⟨0⟩].forM (addSheet ⟨0⟩)) unfilledSample = (.ok (), after) ∧
      filledSample.RealizesLike ⟨0⟩ after ⟨0⟩ 2 := by
  obtain ⟨described, added⟩ := rearranged_coupling_regrids_like
  constructor
  · obtain ⟨realized, otherRealized, done, otherDone, like, made⟩ := described _ _ _ _ 2
      rearrangedCoupling_rearranges sampleCoupling_canRealize (by decide) rfl
    refine ⟨realized, otherRealized, done, otherDone, like,
      made ⟨by decide, by decide, by decide, ?_⟩⟩
    intro sheet member
    rcases List.mem_cons.mp member with rfl | member
    · exact ⟨rfl, rfl⟩
    · obtain rfl := List.mem_singleton.mp member
      exact ⟨rfl, rfl⟩
  · refine ⟨_, outcome_filledSample, outcome_turnedSample, ?_⟩
    exact added unfilledSample _ _ ⟨0⟩ [⟨0⟩, ⟨1⟩] [⟨1⟩, ⟨0⟩] 2 (by decide) (by decide)
      (List.Perm.swap ..) outcome_filledSample outcome_turnedSample filledSample_canRealize rfl

end CouplingSpace

end Regrid
