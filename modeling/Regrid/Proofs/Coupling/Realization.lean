import Regrid.Proofs.Array.Position
import Regrid.Proofs.Coupling.Layout
import Regrid.Proofs.Coupling.Overlaps
import Regrid.Proofs.Refusal

/-!
Contract: listing the overlaps of a sheet checks all that its operators rely on, in any
arithmetic.

Owns:
- inputs of the types that a sheet asks for, and that only values of them are refused;
- what a listed overlap rests on in the meshes of its sheet;
- that a sheet which keeps listed overlaps makes its operators and adds its areas up.

Does not own: meshes that are shared, and what the operators do.

The arrays of a sheet are read without a check at each item. They are long enough because the
check compares them with the extent of the ice mesh, and every key in use lies below this extent.
-/

namespace Regrid

open Attempt

variable {α : Type}

namespace Sheet

/-! ### Inputs -/

/-- The inputs of a sheet are of the types that it asks for: extents, addresses and references are
integers, where an extent may be left unset, and arrays hold as many items as their shapes say. -/
structure Typed (sheet : Sheet (Grid α) α) : Prop where
  extent : sheet.modelExtent = .null ∨ ∃ n, sheet.modelExtent = .int n
  heights : ∃ n, sheet.heightPoints = .int n
  modelCells : ∀ cell ∈ sheet.exchangeMesh.cells.items, ∃ i, cell.i = .int i
  iceCells : ∀ cell ∈ sheet.exchangeMesh.cells.items, ∃ j, cell.j = .int j
  references : ∀ cell ∈ sheet.iceMesh.cells.items, ∀ vertex ∈ cell.vertices, ∃ p, vertex = .int p
  mask : ∀ mask, sheet.mask = some mask → mask.items.length = Tensor.volume mask.shape
  elevation : ∀ elevation, sheet.elevation = some elevation →
    elevation.items.length = Tensor.volume elevation.shape

variable {sheet : Sheet (Grid α) α} {overlaps : List (Overlap α)}

/-- The check refuses values only. -/
theorem Typed.refusesWith_check (typed : sheet.Typed) : RefusesWith [.value] sheet.check := by
  obtain ⟨heightPoints, heights⟩ := typed.heights
  have counted : RefusesWith [.value] sheet.hasModelCells := by
    unfold hasModelCells
    rcases typed.extent with unset | ⟨n, extent⟩
    · rw [unset]
      exact refusesWith_ok false
    · simp only [extent, Value.isAtMost_int]
      exact refusesWith_ok _
  have fields : ∀ {β : Type} (label : String) (field : Option (Tensor β)),
      RefusesWith [.value] (sheet.checkField label field sheet.iceMesh.fieldLength) := by
    intro β label field
    unfold checkField
    cases field with
    | none => exact refusesWith_ok ()
    | some array =>
        simp only []
        split
        · exact refusesWith_ok ()
        · exact refusesWith_error (List.mem_singleton.mpr rfl)
  have few : RefusesWith [.value] (sheet.heightPoints.isBelow (.int 1)) := by
    rw [heights, Value.isBelow_int]
    exact refusesWith_ok _
  refine refusesWith_refuse (List.mem_singleton.mpr rfl) ?_
  refine refusesWith_refuse (List.mem_singleton.mpr rfl) ?_
  refine refusesWith_bind counted fun _ => ?_
  refine refusesWith_refuse (List.mem_singleton.mpr rfl) ?_
  refine refusesWith_bind few fun _ => ?_
  refine refusesWith_refuse (List.mem_singleton.mpr rfl) ?_
  exact refusesWith_bind (fields "mask2" sheet.mask) fun _ => fields "elev2" sheet.elevation

theorem Typed.exists_modelExtent (typed : sheet.Typed) (checked : sheet.check = .ok ()) :
    ∃ n, sheet.modelExtent = .int n :=
  typed.extent.resolve_left (extent_ne_null_of_check checked)

variable [Scalar α]

/-- The fields of a checked sheet have an item at each position below the extent of the ice
mesh. -/
theorem Typed.exists_fields (typed : sheet.Typed) (checked : sheet.check = .ok ()) {p : Int}
    (natural : 0 ≤ p) (below : p < sheet.iceMesh.fieldLength) :
    (∃ masked, sheet.isMasked (.int p) = .ok masked) ∧
      ∃ elevation, sheet.elevationAt (.int p) = .ok elevation := by
  obtain ⟨maskChecked, elevationChecked⟩ := fields_of_check checked
  unfold isMasked elevationAt
  constructor
  · cases masked : sheet.mask with
    | none => exact ⟨false, rfl⟩
    | some mask =>
        rw [masked] at maskChecked
        obtain ⟨_, long⟩ := vector_of_checkField maskChecked (typed.mask mask masked)
        exact exists_itemAtValue natural (long ▸ below)
  · cases raised : sheet.elevation with
    | none => exact ⟨Scalar.unknown, rfl⟩
    | some elevation =>
        rw [raised] at elevationChecked
        obtain ⟨_, long⟩ := vector_of_checkField elevationChecked (typed.elevation elevation raised)
        exact exists_itemAtValue natural (long ▸ below)

/-! ### Refusals -/

theorem exists_meanElevation {icePoints : List Value}
    (each : ∀ icePoint ∈ icePoints, ∃ elevation, sheet.elevationAt icePoint = .ok elevation) :
    ∃ mean, sheet.meanElevation icePoints = .ok mean := by
  unfold elevationAt at each
  unfold meanElevation
  cases raised : sheet.elevation with
  | none => exact ⟨Scalar.unknown, rfl⟩
  | some elevation =>
      rw [raised] at each
      obtain ⟨items, read⟩ := exists_mapM_eq_ok each
      exact ⟨mean items, bind_eq_ok_iff.mpr ⟨items, read, rfl⟩⟩

/-- An accepted exchange cell has overlaps if the fields can be read where it covers the ice. -/
theorem exists_cellPart {cell iceCell : Cell α} {area : α}
    (accepted : sheet.exchangePart cell = .ok (iceCell, area))
    (readable : ∀ icePoint ∈ sheet.coveredPoints cell iceCell,
      (∃ masked, sheet.isMasked icePoint = .ok masked) ∧
        ∃ elevation, sheet.elevationAt icePoint = .ok elevation) :
    ∃ overlaps, sheet.cellPart cell = .ok overlaps := by
  unfold coveredPoints at readable
  unfold cellPart
  cases kind : sheet.variant with
  | onCells =>
      rw [kind] at readable
      obtain ⟨⟨masked, maskedRead⟩, elevation, elevationRead⟩ :=
        readable cell.j (List.mem_singleton.mpr rfl)
      simp only [cellOverlaps, accepted, maskedRead, elevationRead, bind, Except.bind]
      cases masked <;> exact ⟨_, rfl⟩
  | onVertices =>
      rw [kind] at readable
      obtain ⟨elevation, elevationRead⟩ :=
        exists_meanElevation fun icePoint member => (readable icePoint member).2
      have tests : ∀ icePoint ∈ iceCell.vertices, ∃ verdict,
          (do return !(← sheet.isMasked icePoint)) = .ok verdict := by
        intro icePoint member
        obtain ⟨masked, maskedRead⟩ := (readable icePoint member).1
        exact ⟨!masked, bind_eq_ok_iff.mpr ⟨masked, maskedRead, rfl⟩⟩
      obtain ⟨kept, filtered⟩ := exists_filterM_eq_ok tests
      simp only [bind, Except.bind] at filtered
      simp only [vertexOverlaps, accepted, elevationRead, filtered, bind, Except.bind]
      split <;> exact ⟨_, rfl⟩

/-- An exchange cell that is not accepted has no overlaps. -/
theorem cellPart_of_exchangePart {cell : Cell α} {reason : Error}
    (refused : sheet.exchangePart cell = .error reason) :
    sheet.cellPart cell = .error reason := by
  unfold cellPart
  cases sheet.variant with
  | onCells => exact bind_eq_error_iff.mpr (.inl refused)
  | onVertices => exact bind_eq_error_iff.mpr (.inl refused)

/-- An exchange cell is refused if it names an ice cell that is not there or a model cell outside
the extent, and for no other reason. -/
theorem Typed.refusesWith_exchangePart (typed : sheet.Typed) (checked : sheet.check = .ok ())
    {cell : Cell α} (member : cell ∈ sheet.exchangeMesh.cells.items) :
    RefusesWith [.value] (sheet.exchangePart cell) := by
  obtain ⟨modelExtent, extent⟩ := typed.exists_modelExtent checked
  obtain ⟨i, modelCell⟩ := typed.modelCells cell member
  obtain ⟨j, iceCell⟩ := typed.iceCells cell member
  unfold exchangePart
  rw [iceCell, Table.member?_int, modelCell, extent, Value.isAtMost_int, Value.isBelow_int]
  simp only [bind, Except.bind]
  by_cases used : j ∈ sheet.iceMesh.cells.keys
  · obtain ⟨stored, found⟩ := Table.exists_get used
    simp only [if_pos used, found]
    split
    · split
      · exact refusesWith_ok _
      · exact refusesWith_error (List.mem_singleton.mpr rfl)
    · exact refusesWith_error (List.mem_singleton.mpr rfl)
  · simp only [if_neg used]
    exact refusesWith_error (List.mem_singleton.mpr rfl)

/-- The ice data points that an accepted exchange cell covers are integers in use. -/
theorem Typed.exists_key_of_covered (typed : sheet.Typed)
    (sound : sheet.iceMesh.Sound (.held α))
    (variant : sheet.iceMesh.parameterization = sheet.variant) {cell iceCell : Cell α} {area : α}
    (member : cell ∈ sheet.exchangeMesh.cells.items)
    (accepted : sheet.exchangePart cell = .ok (iceCell, area)) {icePoint : Value}
    (covered : icePoint ∈ sheet.coveredPoints cell iceCell) :
    ∃ p ∈ sheet.iceMesh.dataKeys, icePoint = .int p := by
  obtain ⟨key, used, same⟩ := exists_dataKey_of_covered sound variant accepted covered
  have integer : ∃ p, icePoint = .int p := by
    unfold coveredPoints at covered
    cases kind : sheet.variant with
    | onCells =>
        rw [kind] at covered
        obtain rfl := List.mem_singleton.mp covered
        exact typed.iceCells cell member
    | onVertices =>
        rw [kind] at covered
        obtain ⟨_, _, _, _, stored, _⟩ := exchangePart_eq_ok_iff.mp accepted
        exact typed.references iceCell (Table.mem_items_of_mem (Table.mem_of_get stored)) icePoint
          covered
  obtain ⟨p, rfl⟩ := integer
  obtain rfl : p = key := Option.some.inj (Except.ok.inj same)
  exact ⟨p, used, rfl⟩

/-- A sheet on a sound ice mesh refuses to list its overlaps for the values of its inputs only. -/
theorem Typed.refusesWith_listOverlaps (typed : sheet.Typed)
    (sound : sheet.iceMesh.Sound (.held α)) : RefusesWith [.value] sheet.listOverlaps := by
  intro reason refused
  rcases bind_eq_error_iff.mp refused with early | ⟨_, checked, later⟩
  · exact typed.refusesWith_check reason early
  have variant := variant_of_check checked
  have each : ∀ cell ∈ sheet.exchangeMesh.cells.items,
      RefusesWith [.value] (sheet.cellPart cell) := by
    intro cell member
    cases accepted : sheet.exchangePart cell with
    | error other =>
        rw [cellPart_of_exchangePart accepted]
        exact refusesWith_error (typed.refusesWith_exchangePart checked member other accepted)
    | ok covered =>
        obtain ⟨iceCell, area⟩ := covered
        have readable : ∀ icePoint ∈ sheet.coveredPoints cell iceCell,
            (∃ masked, sheet.isMasked icePoint = .ok masked) ∧
              ∃ elevation, sheet.elevationAt icePoint = .ok elevation := by
          intro icePoint covered
          obtain ⟨p, used, rfl⟩ :=
            typed.exists_key_of_covered sound variant member accepted covered
          obtain ⟨natural, below⟩ := sound.dataKey_bounds used
          exact typed.exists_fields checked natural below
        obtain ⟨overlaps, listed⟩ := exists_cellPart accepted readable
        rw [listed]
        exact refusesWith_ok overlaps
  exact refusesWith_bind (refusesWith_mapM each) (fun _ => refusesWith_ok _) reason later

/-! ### Listed overlaps -/

/-- What a listed overlap rests on: a model cell inside the extent, an ice data point that is in
use and not masked, and an exchange cell of which it is the whole area or an equal share. -/
structure Supports (sheet : Sheet (Grid α) α) (modelExtent : Int) (overlap : Overlap α) : Prop where
  modelCell : ∃ i, overlap.modelCell = .int i ∧ 0 ≤ i ∧ i < modelExtent
  icePoint : ∃ p ∈ sheet.iceMesh.dataKeys, overlap.icePoint = .int p ∧ 0 ≤ p ∧
    p < sheet.iceMesh.fieldLength
  unmasked : sheet.isMasked overlap.icePoint = .ok false
  area : ∃ cell ∈ sheet.exchangeMesh.cells.items, ∃ iceCell, cell.i = overlap.modelCell ∧
    sheet.iceMesh.cells.getAt cell.j = .ok iceCell ∧
    overlap.icePoint ∈ sheet.coveredPoints cell iceCell ∧ overlap.area = sheet.share cell iceCell

theorem Typed.supports_of_mem (typed : sheet.Typed) (sound : sheet.iceMesh.Sound (.held α))
    {modelExtent : Int} (extent : sheet.modelExtent = .int modelExtent)
    (listed : sheet.listOverlaps = .ok overlaps) :
    ∀ overlap ∈ overlaps, sheet.Supports modelExtent overlap := by
  obtain ⟨checked, _⟩ := listOverlaps_eq_ok_iff.mp listed
  intro overlap member
  obtain ⟨cell, cellMember, part⟩ := exists_cell_of_mem_listOverlaps listed overlap member
  obtain ⟨iceCell, accepted, covered, area⟩ := part.covered
  obtain ⟨p, used, icePoint⟩ := typed.exists_key_of_covered sound (variant_of_check checked)
    cellMember accepted covered
  exact ⟨exists_modelCell_of_mem_listOverlaps listed typed.modelCells extent overlap member,
    ⟨p, used, icePoint, sound.dataKey_bounds used⟩, part.unmasked,
    cell, cellMember, iceCell, part.modelCell.symm, getAt_of_exchangePart accepted, covered, area⟩

/-! ### Kept overlaps -/

variable {modelExtent heightPoints : Int}

/-- The areas on model cells are made and added up on the way, as they are without the operator. -/
theorem Located.exists_heightToModel {γ : Type} {sheet : Sheet γ α}
    (located : sheet.Located modelExtent heightPoints overlaps) (areas : Accumulator α) :
    ∃ operator after, sheet.heightToModel.outcome areas = (.ok operator, after) ∧
      operator.nativeShape = (modelExtent, heightPoints * modelExtent) ∧
      sheet.accumulateAreas areas = .ok after := by
  obtain ⟨listed, lists⟩ := located.exists_lists
  obtain ⟨modelNatural, spaceNatural⟩ := located.natural
  obtain ⟨operator, done⟩ := lists.exists_heightToModel modelNatural spaceNatural areas
  obtain ⟨_, rowExtent, columnExtent, _, _, rowRead, columnRead, assembles, _⟩ :=
    heightToModel_eq_ok done
  rw [located.extent] at rowRead
  rw [heightExtent, heightSpace_eq located.extent located.heights] at columnRead
  cases rowRead
  cases columnRead
  exact ⟨operator, _, whole_eq_ok_iff.mp done, assembles.nativeShape,
    accumulateAreas_of_entries lists.read areas⟩

/-- The averages on ice data points are made if the overlaps lie on them. -/
theorem Located.exists_heightToIce {ν κ : Type} {sheet : Sheet (Mesh ν κ) α}
    (located : sheet.Located modelExtent heightPoints overlaps)
    (iceNatural : 0 ≤ sheet.iceMesh.fieldLength)
    (icePoints : ∀ overlap ∈ overlaps, ∃ p, overlap.icePoint.toInteger = .ok p ∧ 0 ≤ p ∧
      p < sheet.iceMesh.fieldLength) :
    ∃ operator, sheet.heightToIce = .ok operator ∧
      operator.nativeShape = (sheet.iceMesh.fieldLength, heightPoints * modelExtent) := by
  obtain ⟨listed, read, inside⟩ := located.exists_entries icePoints
  obtain ⟨operator, done⟩ := Sheet.exists_heightToIce located.extent located.heights read inside
    iceNatural located.natural.2
  obtain ⟨_, columnExtent, assembled, _, columnRead, assembles, scaled, _⟩ :=
    heightToIce_eq_ok done
  rw [heightExtent, heightSpace_eq located.extent located.heights] at columnRead
  cases columnRead
  refine ⟨operator, done, ?_⟩
  rw [(DenseOperator.scaleRows_eq_ok scaled).2]
  exact assembles.nativeShape

/-- A sheet still has the ice mesh and the extents of another one, and keeps the given overlaps.
Mask, elevations and classifier may be others. -/
structure Remains (later sheet : Sheet (Grid α) α) (overlaps : List (Overlap α)) : Prop where
  iceMesh : later.iceMesh = sheet.iceMesh
  modelExtent : later.modelExtent = sheet.modelExtent
  heightPoints : later.heightPoints = sheet.heightPoints
  kept : later.overlaps = some overlaps

/-- Nothing that a sheet computes is refused: both operators are made for the whole extents, and
the areas are added to any others. -/
structure Computes (sheet : Sheet (Grid α) α) (modelExtent heightPoints : Int) : Prop where
  heightToIce : ∃ operator, sheet.heightToIce = .ok operator ∧
    operator.nativeShape = (sheet.iceMesh.fieldLength, heightPoints * modelExtent)
  heightToModel : ∀ areas : Accumulator α, ∃ operator after,
    sheet.heightToModel.outcome areas = (.ok operator, after) ∧
      operator.nativeShape = (modelExtent, heightPoints * modelExtent) ∧
      sheet.accumulateAreas areas = .ok after

/-- Where overlaps were listed, a sheet that keeps them computes from them. -/
theorem Typed.computes_of_listed (typed : sheet.Typed) (sound : sheet.iceMesh.Sound (.held α))
    (extent : sheet.modelExtent = .int modelExtent)
    (heights : sheet.heightPoints = .int heightPoints)
    (listed : sheet.listOverlaps = .ok overlaps) {later : Sheet (Grid α) α}
    (remains : later.Remains sheet overlaps) (classified : later.Classified heightPoints overlaps) :
    later.Computes modelExtent heightPoints := by
  obtain ⟨checked, _⟩ := listOverlaps_eq_ok_iff.mp listed
  obtain ⟨positive, enough, _⟩ := check_eq_ok extent heights checked
  have supports := typed.supports_of_mem sound extent listed
  have located : later.Located modelExtent heightPoints overlaps :=
    ⟨remains.modelExtent.trans extent, remains.heightPoints.trans heights, positive, enough,
      remains.kept, fun overlap member => (supports overlap member).modelCell, classified⟩
  have icePoints : ∀ overlap ∈ overlaps, ∃ p, overlap.icePoint.toInteger = .ok p ∧ 0 ≤ p ∧
      p < later.iceMesh.fieldLength := by
    intro overlap member
    obtain ⟨p, _, icePoint, bounds⟩ := (supports overlap member).icePoint
    rw [icePoint, remains.iceMesh]
    exact ⟨p, rfl, bounds⟩
  have iceNatural : 0 ≤ later.iceMesh.fieldLength := remains.iceMesh ▸ sound.fieldLength_natural
  exact ⟨located.exists_heightToIce iceNatural icePoints, located.exists_heightToModel⟩

/-- A sheet keeps the overlaps that it listed with the given mask and elevations, on the meshes
and for the extents that it still has. Model cells have integer addresses, and each overlap is in
a height point. -/
structure Cached (sheet : Sheet (Grid α) α) (modelExtent heightPoints : Int)
    (mask : Option (Tensor Bool)) (elevation : Option (Tensor α)) (overlaps : List (Overlap α)) :
    Prop where
  extent : sheet.modelExtent = .int modelExtent
  heights : sheet.heightPoints = .int heightPoints
  addresses : ∀ cell ∈ sheet.exchangeMesh.cells.items, ∃ i, cell.i = .int i
  listed : { sheet with mask, elevation }.listOverlaps = .ok overlaps
  kept : sheet.overlaps = some overlaps
  classified : sheet.Classified heightPoints overlaps

/-- Overlaps that were listed are located. -/
theorem Cached.located {mask : Option (Tensor Bool)} {elevation : Option (Tensor α)}
    (cached : sheet.Cached modelExtent heightPoints mask elevation overlaps) :
    sheet.Located modelExtent heightPoints overlaps := by
  obtain ⟨checked, _⟩ := listOverlaps_eq_ok_iff.mp cached.listed
  have extent : { sheet with mask, elevation }.modelExtent = .int modelExtent := cached.extent
  obtain ⟨positive, enough, _⟩ := check_eq_ok extent cached.heights checked
  exact
    { cached with
      positive
      enough
      modelCells :=
        exists_modelCell_of_mem_listOverlaps cached.listed cached.addresses cached.extent }

end Sheet

end Regrid
