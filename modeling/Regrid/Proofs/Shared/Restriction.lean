import Regrid.Proofs.Shared.Filtering

/-!
Contract: the results of a coupling before and after its model cells are filtered.

Owns:
- when the sheets of a coupling are up to date with their meshes;
- that filtering keeps extents, overlaps, areas and averages on the model cells that pass, and
  leaves nothing on the others.

Does not own: sheets that were listed for other extents or other meshes.
-/

namespace Regrid

open Attempt

variable {α : Type} [Scalar α]

namespace CouplingSpace

/-! ### Sheets that are up to date -/

/-- The sheets of a coupling have its extents and have listed the overlaps that they would list
now, each of them at a height point of the coupling. -/
structure UpToDate (ref : Ref (Coupling α)) (heightPoints : Int) (space : CouplingSpace α) :
    Prop where
  filterable : space.FilterableAt ref
  heights : (space.couplings.get ref).heightPoints = .int heightPoints
  extents : ∀ sheet ∈ space.sheetRefs ref,
    (space.sheets.get sheet).modelExtent = .int (space.modelExtent ref) ∧
      (space.sheets.get sheet).heightPoints = .int heightPoints
  classified : ∀ sheet ∈ space.sheetRefs ref, ∃ overlaps,
    (space.sheets.get sheet).overlaps = some overlaps ∧ ∀ overlap ∈ overlaps, ∃ height,
      (space.sheets.get sheet).heightPoint overlap.modelCell overlap.elevation = .ok height ∧
        0 ≤ height ∧ height < heightPoints

variable {space : CouplingSpace α} {ref : Ref (Coupling α)} {heightPoints : Int} {p : Int → Bool}

theorem viewSheets_eq (space : CouplingSpace α) (ref : Ref (Coupling α)) :
    space.viewSheets ref = (space.sheetRefs ref).map space.viewSheet := by
  rw [viewSheets, sheetRefs, List.map_map]
  rfl

/-- A coupling with a sheet that is up to date has model cells and height points. -/
theorem UpToDate.positive (upToDate : space.UpToDate ref heightPoints)
    {sheet : Ref (SharedSheet α)} (member : sheet ∈ space.sheetRefs ref) :
    0 < space.modelExtent ref ∧ 1 ≤ heightPoints := by
  obtain ⟨overlaps, kept, _⟩ := upToDate.classified sheet member
  obtain ⟨extent, heights⟩ := upToDate.extents sheet member
  have listed := upToDate.filterable.listed sheet member overlaps kept
  have checked := (Sheet.listOverlaps_eq_ok_iff.mp listed).1
  obtain ⟨positive, enough, _⟩ := Sheet.check_eq_ok extent heights checked
  exact ⟨positive, enough⟩

theorem UpToDate.exists_modelCell (upToDate : space.UpToDate ref heightPoints)
    {sheet : Ref (SharedSheet α)} (member : sheet ∈ space.sheetRefs ref)
    {overlaps : List (Overlap α)} (kept : (space.sheets.get sheet).overlaps = some overlaps) :
    ∀ overlap ∈ overlaps, ∃ i, overlap.modelCell = .int i ∧ 0 ≤ i ∧ i < space.modelExtent ref :=
  Sheet.exists_modelCell_of_mem_listOverlaps
    (upToDate.filterable.listed sheet member overlaps kept)
    (upToDate.filterable.addresses sheet member) (upToDate.extents sheet member).1

/-- The sheets list entries inside the extents, and after the filtering those that pass. -/
theorem UpToDate.exists_lists (upToDate : space.UpToDate ref heightPoints) (p : Int → Bool) :
    ∃ lists : List (List (Int × Int × α)),
      List.Forall₂ (fun sheet listed => sheet.Lists (space.modelExtent ref) heightPoints listed)
        (space.viewSheets ref) lists ∧
      List.Forall₂ (fun sheet listed => sheet.Lists (space.modelExtent ref) heightPoints listed)
        ((space.restricted p ref).viewSheets ref)
        (lists.map (·.filter fun entry => p entry.1)) := by
  have each : ∀ sheet ∈ space.sheetRefs ref, ∃ listed,
      (space.viewSheet sheet).Lists (space.modelExtent ref) heightPoints listed ∧
        ((space.restricted p ref).viewSheet sheet).Lists (space.modelExtent ref) heightPoints
          (listed.filter fun entry => p entry.1) := by
    intro sheet member
    obtain ⟨overlaps, kept, classified⟩ := upToDate.classified sheet member
    obtain ⟨extent, heights⟩ := upToDate.extents sheet member
    have cells := upToDate.exists_modelCell member kept
    obtain ⟨listed, lists⟩ : ∃ listed,
        (space.viewSheet sheet).Lists (space.modelExtent ref) heightPoints listed :=
      Sheet.exists_lists extent heights kept cells classified
    refine ⟨listed, lists, ?_⟩
    rw [restricted, upToDate.filterable.viewSheet_restricted member]
    refine lists.restricted (fun others same overlap inside => ?_) p _
    obtain rfl := Option.some.inj (kept.symm.trans same)
    obtain ⟨i, modelCell, _⟩ := cells overlap inside
    exact ⟨i, modelCell⟩
  obtain ⟨lists, both⟩ := exists_forall₂ each
  refine ⟨lists, ?_, ?_⟩
  · rw [viewSheets_eq]
    exact List.forall₂_map_left_iff.mpr (both.imp fun _ _ pair => pair.1)
  · rw [viewSheets_eq]
    apply List.forall₂_map_left_iff.mpr
    exact List.forall₂_map_right_iff.mpr (both.imp fun _ _ pair => pair.2)

/-! ### Results -/

/-- Of the model cells of a coupling, and of the results on them, exactly those that pass are
left. Extents stay, and so do the meshes and sheets that the coupling does not filter. -/
structure Keeps (p : Int → Bool) (ref : Ref (Coupling α)) (before after : CouplingSpace α) :
    Prop where
  extent : after.modelExtent ref = before.modelExtent ref
  modelCells : (after.meshes.grids.get (before.couplings.get ref).modelMesh).cells.keys =
    (before.meshes.grids.get (before.couplings.get ref).modelMesh).cells.keys.filter p
  couplings : after.couplings = before.couplings
  otherMeshes : ∀ grid, grid ∉ (before.couplings.get ref).modelMesh ::
    before.exchangeMeshes (before.sheetRefs ref) →
      after.meshes.grids.get grid = before.meshes.grids.get grid
  otherSheets : ∀ sheet ∉ before.sheetRefs ref, after.sheets.get sheet = before.sheets.get sheet
  sheets : ∀ sheet ∈ before.sheetRefs ref, ∃ overlaps,
    (before.sheets.get sheet).overlaps = some overlaps ∧ after.sheets.get sheet =
      { before.sheets.get sheet with overlaps := some (overlaps.filter (·.passes p)) }
  areas : ∃ areas, before.coveredAreas ref = .ok areas ∧
    after.coveredAreas ref = .ok (areas.restricted p)
  averages : ∀ operator areas, before.heightToModel ref = .ok (operator, areas) →
    ∃ fewer, after.heightToModel ref = .ok (fewer, areas.restricted p) ∧
      ∀ row column, fewer.value (.int row) (.int column) =
        if p row then operator.value (.int row) (.int column) else .ok Scalar.zero

/-- The model mesh holds the model cells that pass. -/
theorem UpToDate.modelMesh_restricted (upToDate : space.UpToDate ref heightPoints) :
    (space.restricted p ref).meshes.grids.get (space.couplings.get ref).modelMesh =
      MeshSpace.restrictGrid space.meshes.cells (fun key _ => p key)
        (space.meshes.grids.get (space.couplings.get ref).modelMesh) := by
  have placed := (upToDate.filterable.meshes _ (List.mem_cons_self ..)).placed
  exact (Heap.get_adjust placed _).trans (if_pos rfl)

theorem UpToDate.modelExtent_restricted (upToDate : space.UpToDate ref heightPoints) :
    (space.restricted p ref).modelExtent ref = space.modelExtent ref := by
  show ((space.restricted p ref).meshes.grids.get (space.couplings.get ref).modelMesh).fieldLength =
    (space.meshes.grids.get (space.couplings.get ref).modelMesh).fieldLength
  rw [upToDate.modelMesh_restricted, MeshSpace.restrictGrid]
  exact Mesh.fieldLength_restricted ..

theorem UpToDate.coveredAreas_restricted (upToDate : space.UpToDate ref heightPoints) :
    ∃ areas, space.coveredAreas ref = .ok areas ∧
      (space.restricted p ref).coveredAreas ref = .ok (areas.restricted p) := by
  obtain ⟨lists, each, eachFewer⟩ := upToDate.exists_lists p
  have integral := Accumulator.integral_empty (α := α)
  refine ⟨Accumulator.addAll {} lists.flatten,
    coveredAreas_of_entries (each.imp fun _ _ lists => lists.read), ?_⟩
  rw [coveredAreas, coveredAreas_of_entries (eachFewer.imp fun _ _ lists => lists.read),
    integral.restricted_addAll, List.filter_flatten]
  rfl

theorem UpToDate.heightToModel_restricted (upToDate : space.UpToDate ref heightPoints)
    {operator : DenseOperator α} {areas : Accumulator α}
    (done : space.heightToModel ref = .ok (operator, areas)) :
    ∃ fewer, (space.restricted p ref).heightToModel ref = .ok (fewer, areas.restricted p) ∧
      ∀ row column, fewer.value (.int row) (.int column) =
        if p row then operator.value (.int row) (.int column) else .ok Scalar.zero := by
  obtain ⟨lists, each, eachFewer⟩ := upToDate.exists_lists p
  have natural : space.viewSheets ref ≠ [] →
      0 ≤ space.modelExtent ref ∧ 0 ≤ heightPoints * space.modelExtent ref := by
    intro some
    rw [viewSheets_eq] at some
    obtain ⟨sheet, member⟩ := List.exists_mem_of_ne_nil _ (mt List.map_eq_nil_iff.mpr some)
    obtain ⟨positive, enough⟩ := upToDate.positive member
    exact ⟨by omega, Int.mul_nonneg (by omega) (by omega)⟩
  rw [heightToModel, upToDate.heights] at done
  have heights : ((space.restricted p ref).couplings.get ref).heightPoints = .int heightPoints :=
    upToDate.heights
  rw [heightToModel, heights, upToDate.modelExtent_restricted]
  exact exists_heightToModel_restricted each eachFewer natural done

/-- Height-point space has to fit 64 bits for the averages to be made. -/
theorem UpToDate.exists_heightToModel (upToDate : space.UpToDate ref heightPoints)
    (modelNatural : 0 ≤ space.modelExtent ref) (natural : 0 ≤ heightPoints)
    (fits : heightPoints * space.modelExtent ref < -Scalar.leastInt64) :
    ∃ operator areas, space.heightToModel ref = .ok (operator, areas) := by
  obtain ⟨lists, each, _⟩ := upToDate.exists_lists fun _ => true
  have enough : space.viewSheets ref ≠ [] → 1 ≤ heightPoints := by
    intro some
    rw [viewSheets_eq] at some
    obtain ⟨sheet, member⟩ := List.exists_mem_of_ne_nil _ (mt List.map_eq_nil_iff.mpr some)
    exact (upToDate.positive member).2
  rw [heightToModel, upToDate.heights]
  exact (exists_heightToModel_iff each modelNatural enough).mpr
    ⟨Int.mul_nonneg natural modelNatural, .inr fits⟩

theorem UpToDate.keeps (upToDate : space.UpToDate ref heightPoints) :
    Keeps p ref space (space.restricted p ref) where
  extent := upToDate.modelExtent_restricted
  modelCells := by
    rw [upToDate.modelMesh_restricted]
    exact Table.keys_restricted p _
  couplings := rfl
  otherMeshes := fun _ outside => grid_restrictedTo outside
  otherSheets := fun _ outside => sheet_restrictedTo outside
  sheets := by
    intro sheet member
    obtain ⟨overlaps, kept, _⟩ := upToDate.classified sheet member
    refine ⟨overlaps, kept, ?_⟩
    rw [restricted, upToDate.filterable.sheet_restricted member, kept]
    rfl
  areas := upToDate.coveredAreas_restricted
  averages := fun _ _ done => upToDate.heightToModel_restricted done

/-- Filtering a coupling whose sheets are up to date restricts its results to the model cells that
pass. It leaves the same space as filtering before the overlaps are listed, and filtering by one
test after the other leaves the same space as filtering by both at once. -/
theorem filterAll_restricts (upToDate : space.UpToDate ref heightPoints) {q : Int → Bool}
    {accept acceptNext acceptBoth : Value → Except Error Bool}
    (answers : ∀ i, accept (.int i) = .ok (p i)) (next : ∀ i, acceptNext (.int i) = .ok (q i))
    (both : ∀ i, acceptBoth (.int i) = .ok (p i && q i)) :
    (∃ after, (filterAll accept ref).outcome space = (.ok (), after) ∧
      Keeps p ref space after ∧
      (do
        (space.couplings.get ref).sheets.forM fun entry => unrealize entry.2
        filterAll accept ref
        realizeAll ref : Attempt (CouplingSpace α) Unit).outcome space = (.ok (), after)) ∧
    (0 ≤ space.modelExtent ref → 0 ≤ heightPoints →
      heightPoints * space.modelExtent ref < -Scalar.leastInt64 →
      ∃ operator areas, space.heightToModel ref = .ok (operator, areas)) ∧
    ∃ after, (do
        filterAll accept ref
        filterAll acceptNext ref : Attempt (CouplingSpace α) Unit).outcome space =
          (.ok (), after) ∧
      (filterAll acceptBoth ref).outcome space = (.ok (), after) := by
  have filtered := upToDate.filterable.outcome_filterAll answers
  have realized : ∀ sheet ∈ space.sheetRefs ref, ∃ overlaps,
      (space.sheets.get sheet).overlaps = some overlaps := by
    intro sheet member
    obtain ⟨overlaps, kept, _⟩ := upToDate.classified sheet member
    exact ⟨overlaps, kept⟩
  refine ⟨⟨_, filtered, upToDate.keeps,
    upToDate.filterable.outcome_filter_realize realized answers⟩,
    upToDate.exists_heightToModel, _, ?_, upToDate.filterable.outcome_filterAll both⟩
  have again : (space.restricted p ref).FilterableAt ref := upToDate.filterable.restrictedTo
  have twice : (space.restricted p ref).restricted q ref =
      space.restricted (fun i => p i && q i) ref := restrictedTo_restrictedTo q
  rw [outcome_bind_of_ok filtered, again.outcome_filterAll next, twice]

/-! ### An ice cell over two model cells -/

/-- Two model cells and an ice cell that overlaps both, at the second of two height points. -/
def splitIce : CouplingSpace Rat where
  meshes :=
    { cells := ⟨#[{ index := .int 0, area := 4 }, { index := .int 1, area := 4 },
        { index := .int 0, area := 5 },
        { index := .int 0, i := .int 0, j := .int 0, area := 2 },
        { index := .int 1, i := .int 1, j := .int 0, area := 3 }]⟩
      grids := ⟨#[{ cells := (Table.empty.push 0 ⟨0⟩).push 1 ⟨1⟩ },
        { cells := Table.empty.push 0 ⟨2⟩ },
        { type := .exchange, cells := (Table.empty.push 0 ⟨3⟩).push 1 ⟨4⟩ }]⟩ }
  sheets := ⟨#[
    { variant := .onCells, name := .text "ice", iceMesh := ⟨1⟩, exchangeMesh := ⟨2⟩
      modelExtent := .int 2, heightPoints := .int 2, classifier := some fun _ _ => .ok (.int 1)
      overlaps := some [⟨.int 0, .int 0, 2, 0⟩, ⟨.int 1, .int 0, 3, 0⟩] }]⟩
  couplings := ⟨#[
    { modelMesh := ⟨0⟩, heightPoints := .int 2, sheets := [(.text "ice", ⟨0⟩)] }]⟩

theorem splitIce_cells (ref : Ref (Cell Rat)) :
    (splitIce.meshes.cells.get ref).vertices = [] ∧ (splitIce.meshes.cells.get ref).HasAddress := by
  refine Heap.forall_get (P := fun cell : Cell Rat => cell.vertices = [] ∧ cell.HasAddress)
    ⟨rfl, -1, rfl⟩ (fun cell member => ?_) ref
  simp only [splitIce, List.mem_toArray, List.mem_cons, List.not_mem_nil, or_false] at member
  rcases member with rfl | rfl | rfl | rfl | rfl
  · exact ⟨rfl, -1, rfl⟩
  · exact ⟨rfl, -1, rfl⟩
  · exact ⟨rfl, -1, rfl⟩
  · exact ⟨rfl, 0, rfl⟩
  · exact ⟨rfl, 1, rfl⟩

theorem splitIce_filterable : splitIce.FilterableAt ⟨0⟩ where
  meshes := by
    intro grid member
    have known : ∀ cell ∈ (splitIce.meshes.grids.get grid).cells.items,
        ∀ reference ∈ (splitIce.meshes.cells.get cell).vertices,
          ∃ key, reference.integerKey? = .ok key := by
      intro cell _ reference named
      rw [(splitIce_cells cell).1] at named
      cases named
    rcases List.mem_cons.mp member with rfl | member
    · exact ⟨by show _ < _; decide +kernel, by decide +kernel, known⟩
    · obtain rfl := List.mem_singleton.mp member
      exact ⟨by show _ < _; decide +kernel, by decide +kernel, known⟩
  different := by decide +kernel
  iceMeshes := by
    intro sheet member
    obtain rfl := List.mem_singleton.mp member
    decide +kernel
  held := by
    intro sheet member
    obtain rfl := List.mem_singleton.mp member
    exact Nat.one_pos
  addresses := fun _ _ _ inside =>
    exists_address_of_mem (fun cell => (splitIce_cells cell).2) inside
  listed := by
    intro sheet member overlaps kept
    obtain rfl := List.mem_singleton.mp member
    cases kept
    rfl

theorem splitIce_upToDate : splitIce.UpToDate ⟨0⟩ 2 where
  filterable := splitIce_filterable
  heights := rfl
  extents := by
    intro sheet member
    obtain rfl := List.mem_singleton.mp member
    exact ⟨rfl, rfl⟩
  classified := by
    intro sheet member
    obtain rfl := List.mem_singleton.mp member
    exact ⟨_, rfl, fun _ _ => ⟨1, rfl, by decide, by decide⟩⟩

/-- The test of an integer, as a test that refuses other values. -/
def testing (p : Int → Bool) (value : Value) : Except Error Bool := do
  return p (← value.toInteger)

theorem testing_int (p : Int → Bool) (i : Int) : testing p (.int i) = .ok (p i) := rfl

/-- Filtered to the first model cell, the coupling averages there as before, and the second one is
left with nothing. -/
theorem splitIce_filterAll_restricts : ∃ after,
    (filterAll (testing (· = 0)) ⟨0⟩).outcome splitIce = (.ok (), after) ∧
      Keeps (· = 0) ⟨0⟩ splitIce after ∧
      ∃ operator areas, after.heightToModel ⟨0⟩ = .ok (operator, areas) ∧
        operator.value (.int 0) (.int 2) = .ok 1 ∧ operator.value (.int 1) (.int 3) = .ok 0 := by
  obtain ⟨⟨after, filtered, keeps, _⟩, made, _⟩ := filterAll_restricts splitIce_upToDate
    (testing_int (· = 0)) (testing_int (· = 1)) (testing_int fun i => i = 0 && i = 1)
  obtain ⟨operator, areas, done⟩ := made (by decide +kernel) (by decide) (by decide +kernel)
  obtain ⟨fewer, doneFewer, value⟩ := keeps.averages operator areas done
  have answers : (splitIce.heightToModel ⟨0⟩).toOption.map (fun made =>
      (made.1.value (.int 0) (.int 2)).toOption) = some (some 1) := by
    decide +kernel
  rw [done] at answers
  refine ⟨after, filtered, keeps, fewer, _, doneFewer, ?_, ?_⟩
  · rw [value]
    exact eq_ok_of_toOption (Option.some.inj answers)
  · rw [value]
    rfl

end CouplingSpace

end Regrid
