import Regrid.Proofs.Coupling.Overlaps
import Regrid.Proofs.Shared.Reachable
import Regrid.Shared.CouplingSpace

/-!
Contract: runs of steps on sheets, couplings and their meshes.

Owns:
- the steps, and the spaces that runs of them reach, refused calls included;
- what each step leaves behind, as one equation;
- that addresses, extents and numbers of height points stay integers along every run.

Does not own: operators.
-/

namespace Regrid

open Attempt

variable {α : Type} [Scalar α]

/-! ### Addresses -/

/-- The first native address of a cell, which names a model cell in an exchange mesh, is an
integer. -/
def Cell.HasAddress (cell : Cell α) : Prop := ∃ i, cell.i = .int i

namespace MeshSpace

/-- The native addresses of all cells are integers. -/
def HasAddresses (space : MeshSpace α) : Prop := ∀ cell, (space.cells.get cell).HasAddress

/-- Cells that an operation makes have integer addresses. -/
def Operation.Addresses : Operation α → Prop
  | makeCell cell => cell.HasAddress
  | addPolygon _ cell => cell.HasAddress
  | _ => True

theorem HasAddresses.setCell {space : MeshSpace α} (addresses : space.HasAddresses)
    (ref : Ref (Cell α)) {cell : Cell α} (own : cell.HasAddress) :
    (space.setCell ref cell).HasAddresses :=
  fun other => Heap.holds_get_set (addresses other) fun _ => own

theorem makeVertex_addresses (vertex : Vertex α) :
    (makeVertex vertex).Preserves HasAddresses := by
  refine preserves_ofFunction fun space answer changed addresses done => ?_
  cases done
  exact addresses

theorem makeCell_addresses {cell : Cell α} (own : cell.HasAddress) :
    (makeCell cell).Preserves HasAddresses := by
  refine preserves_ofFunction fun space answer changed addresses done => ?_
  cases done
  exact fun other => Heap.holds_get_make (addresses other) own

theorem change_addresses (grid : Ref (SharedGrid α))
    (f : SharedGrid α → Except Error (SharedGrid α)) : (change grid f).Preserves HasAddresses := by
  intro space addresses
  rw [outcome_change]
  cases f (space.grids.get grid) <;> exact addresses

theorem addVertex_addresses (grid : Ref (SharedGrid α)) (ref : Ref (Vertex α)) :
    (addVertex grid ref).Preserves HasAddresses := by
  intro space addresses
  rw [outcome_addVertex]
  split <;> exact addresses

theorem addCell_addresses (grid : Ref (SharedGrid α)) (ref : Ref (Cell α)) :
    (addCell grid ref).Preserves HasAddresses := by
  intro space addresses
  rw [outcome_addCell]
  split
  · exact addresses.setCell ref (addresses ref)
  · exact addresses.setCell ref (addresses ref)

theorem addPolygon_addresses (grid : Ref (SharedGrid α)) (points : List (α × α)) {cell : Cell α}
    (own : cell.HasAddress) : (addPolygon grid points cell).Preserves HasAddresses := by
  have addPoint : ∀ point, (addPoint grid point).Preserves HasAddresses := fun point =>
    preserves_bind (makeVertex_addresses _) fun ref =>
      preserves_bind (addVertex_addresses grid ref) fun _ =>
        preserves_bind preserves_get fun _ => preserves_pure _
  refine preserves_bind (preserves_mapM addPoint points) fun references => ?_
  refine preserves_bind (makeCell_addresses own) fun ref => ?_
  exact preserves_bind (addCell_addresses grid ref) fun _ => preserves_pure _

theorem computeArea_addresses (mesh : Grid α) (ref : Ref (Cell α)) :
    (computeArea mesh ref).Preserves HasAddresses := by
  refine preserves_ofFunction fun space answer changed addresses done => ?_
  obtain ⟨area, _, same⟩ := bind_eq_ok done
  cases same
  exact addresses.setCell ref (addresses ref)

theorem renameReferences_addresses (names : List (Int × Int)) (ref : Ref (Cell α)) :
    (renameReferences names ref).Preserves HasAddresses := by
  refine preserves_ofFunction fun space answer changed addresses done => ?_
  obtain ⟨vertices, _, same⟩ := bind_eq_ok done
  cases same
  exact addresses.setCell ref (addresses ref)

/-- Operations on meshes leave the addresses of all cells integers, refused or not. -/
theorem Operation.perform_addresses (grid : Ref (SharedGrid α)) {operation : Operation α}
    (own : operation.Addresses) : (operation.perform grid).Preserves HasAddresses := by
  cases operation with
  | makeVertex vertex =>
      exact preserves_bind (makeVertex_addresses vertex) fun _ => preserves_pure _
  | makeCell cell => exact preserves_bind (makeCell_addresses own) fun _ => preserves_pure _
  | addVertex vertex => exact addVertex_addresses grid vertex
  | addCell cell => exact addCell_addresses grid cell
  | addPolygon points cell =>
      exact preserves_bind (addPolygon_addresses grid points own) fun _ => preserves_pure _
  | fixExtent kind extent => exact change_addresses grid _
  | setCoordinates coordinates projection => exact change_addresses grid _
  | computeAreas =>
      exact preserves_bind preserves_get fun _ =>
        preserves_forM _ fun ref _ => computeArea_addresses _ ref
  | sortRenumber =>
      refine preserves_bind preserves_get fun _ => ?_
      refine preserves_bind (preserves_forM _ fun _ _ => preserves_modify fun _ same => same)
        fun _ => ?_
      refine preserves_bind (preserves_modify fun _ same => same) fun _ => ?_
      exact preserves_forM _ fun ref _ => renameReferences_addresses _ ref
  | filterCells accept =>
      exact preserves_bind (change_addresses grid _) fun _ =>
        preserves_bind preserves_get fun _ => change_addresses grid _
  | clear => exact change_addresses grid _

end MeshSpace

/-- The extent and the number of height points of a sheet are integers, and listed overlaps lie on
natural model cells. -/
structure Sheet.Integral {γ : Type} (sheet : Sheet γ α) : Prop where
  cached : ∀ overlaps, sheet.overlaps = some overlaps →
    ∀ overlap ∈ overlaps, ∃ i, overlap.modelCell = .int i ∧ 0 ≤ i
  extent : sheet.modelExtent = .null ∨ ∃ n, sheet.modelExtent = .int n
  heights : ∃ n, sheet.heightPoints = .int n

/-! ### Steps -/

namespace CouplingSpace

/-- A call on a sheet, on a coupling or on a mesh. -/
inductive Step (α : Type) where
  | addSheet (coupling : Ref (Coupling α)) (sheet : Ref (SharedSheet α))
  | realize (sheet : Ref (SharedSheet α))
  | unrealize (sheet : Ref (SharedSheet α))
  | filterSheet (accept : Value → Except Error Bool) (sheet : Ref (SharedSheet α))
  | realizeAll (coupling : Ref (Coupling α))
  | filterAll (accept : Value → Except Error Bool) (coupling : Ref (Coupling α))
  | onMesh (grid : Ref (SharedGrid α)) (operation : MeshSpace.Operation α)

/-- What a step does to the space. -/
def Step.perform : Step α → Attempt (CouplingSpace α) Unit
  | addSheet coupling sheet => CouplingSpace.addSheet coupling sheet
  | realize sheet => CouplingSpace.realize sheet
  | unrealize sheet => CouplingSpace.unrealize sheet
  | filterSheet accept sheet => CouplingSpace.filterSheet accept sheet
  | realizeAll coupling => CouplingSpace.realizeAll coupling
  | filterAll accept coupling => CouplingSpace.filterAll accept coupling
  | onMesh grid operation => onMeshes (operation.perform grid)

/-- A step is handed a coupling and a sheet that exist, and cells with integer addresses. -/
def Step.Admissible (space : CouplingSpace α) : Step α → Prop
  | addSheet coupling sheet => space.couplings.Holds coupling ∧ space.sheets.Holds sheet
  | onMesh _ operation => operation.Addresses
  | _ => True

/-- The spaces that allowed steps reach one after the other, whether they are refused or not. -/
inductive Reaches (allowed : CouplingSpace α → Step α → Prop) (start : CouplingSpace α) :
    CouplingSpace α → Prop where
  | start : Reaches allowed start start
  | step {space : CouplingSpace α} (reaches : Reaches allowed start space) (step : Step α)
      (permitted : allowed space step) : Reaches allowed start (step.perform.outcome space).2

variable {space start : CouplingSpace α} {allowed : CouplingSpace α → Step α → Prop}

/-- What holds at the start and is left behind by every allowed step holds after every run. -/
theorem Reaches.invariant {invariant : CouplingSpace α → Prop}
    (reaches : Reaches allowed start space) (initially : invariant start)
    (preserved : ∀ space step, allowed space step → invariant space →
      invariant (step.perform.outcome space).2) : invariant space := by
  induction reaches with
  | start => exact initially
  | step _ step permitted inductionHypothesis =>
      exact preserved _ step permitted inductionHypothesis

/-- The space with the given list of overlaps for a sheet. -/
def setOverlaps (ref : Ref (SharedSheet α)) (overlaps : Option (List (Overlap α)))
    (space : CouplingSpace α) : CouplingSpace α :=
  { space with sheets := space.sheets.set ref { space.sheets.get ref with overlaps } }

theorem outcome_realize (ref : Ref (SharedSheet α)) (space : CouplingSpace α) :
    (realize ref).outcome space = match (space.viewSheet ref).listOverlaps with
      | .ok overlaps => (.ok (), space.setOverlaps ref (some overlaps))
      | .error reason => (.error reason, space) := by
  unfold realize
  simp only [outcome_bind, outcome_get, outcome_lift]
  cases (space.viewSheet ref).listOverlaps <;> rfl

omit [Scalar α] in
theorem outcome_unrealize (ref : Ref (SharedSheet α)) (space : CouplingSpace α) :
    (unrealize ref).outcome space = (.ok (), space.setOverlaps ref none) := rfl

/-- The space in which a coupling holds one more sheet, with the extents of the coupling. -/
def joinSheet (ref : Ref (Coupling α)) (sheetRef : Ref (SharedSheet α)) (space : CouplingSpace α) :
    CouplingSpace α :=
  { space with
    sheets := space.sheets.set sheetRef { space.sheets.get sheetRef with
      index := (space.couplings.get ref).sheets.length
      modelExtent := .int (space.modelExtent ref)
      heightPoints := (space.couplings.get ref).heightPoints }
    couplings := space.couplings.set ref { space.couplings.get ref with
      sheets := (space.couplings.get ref).sheets ++
        [((space.sheets.get sheetRef).name, sheetRef)] } }

omit [Scalar α] in
theorem outcome_addSheet (ref : Ref (Coupling α)) (sheetRef : Ref (SharedSheet α))
    (space : CouplingSpace α) :
    (addSheet ref sheetRef).outcome space =
      match space.sheetNamed? ref (space.sheets.get sheetRef).name with
      | .ok none => (.ok (), space.joinSheet ref sheetRef)
      | .ok (some _) =>
          (.error (.sheetRepeated (space.sheets.get sheetRef).name.shown), space)
      | .error reason => (.error reason, space) := by
  unfold addSheet
  simp only [outcome_bind, outcome_get, outcome_lift]
  cases space.sheetNamed? ref (space.sheets.get sheetRef).name with
  | error reason => rfl
  | ok found =>
      cases found with
      | none => rfl
      | some other => rfl

omit [Scalar α] in
theorem preserves_onMeshes {τ : Type} {step : Attempt (MeshSpace α) τ}
    {invariant : CouplingSpace α → Prop}
    (kept : ∀ space, invariant space →
      invariant { space with meshes := (step.outcome space.meshes).2 }) :
    (onMeshes step).Preserves invariant := by
  intro space holds
  rw [onMeshes, outcome_within]
  exact kept space holds

/-- Steps on sheets and couplings leave a property behind if listing, clearing and filtering one
sheet do, and if adding a sheet does. -/
theorem Step.perform_preserves {invariant : CouplingSpace α → Prop}
    (lists : ∀ space ref overlaps, (space.viewSheet ref).listOverlaps = .ok overlaps →
      invariant space → invariant (space.setOverlaps ref (some overlaps)))
    (clears : ∀ space ref, invariant space → invariant (space.setOverlaps ref none))
    (filters : ∀ space grid accept, invariant space → invariant { space with
      meshes := ((MeshSpace.filterCells grid accept).outcome space.meshes).2 })
    {step : Step α} (mesh : ∀ grid operation, step = .onMesh grid operation → invariant space →
      invariant { space with meshes := ((operation.perform grid).outcome space.meshes).2 })
    (adds : ∀ coupling sheet, step = .addSheet coupling sheet → invariant space →
      invariant (space.joinSheet coupling sheet))
    (holds : invariant space) : invariant (step.perform.outcome space).2 := by
  have realizes : ∀ ref, (CouplingSpace.realize ref).Preserves invariant := by
    intro ref between kept
    rw [outcome_realize]
    cases listed : (between.viewSheet ref).listOverlaps with
    | error reason => exact kept
    | ok overlaps => exact lists between ref overlaps listed kept
  have filtersSheet : ∀ accept ref, (CouplingSpace.filterSheet accept ref).Preserves invariant := by
    intro accept ref
    refine preserves_bind preserves_get fun between => ?_
    refine preserves_bind (preserves_onMeshes fun space kept => filters space _ _ kept) fun _ => ?_
    split
    · exact realizes ref
    · exact preserves_pure _
  cases step with
  | addSheet coupling sheet =>
      rw [Step.perform, outcome_addSheet]
      split
      · exact adds coupling sheet rfl holds
      · exact holds
      · exact holds
  | realize sheet => exact realizes sheet space holds
  | unrealize sheet => exact clears space sheet holds
  | filterSheet accept sheet => exact filtersSheet accept sheet space holds
  | realizeAll coupling =>
      exact preserves_bind preserves_get
        (fun _ => preserves_forM _ fun entry _ => realizes entry.2) space holds
  | filterAll accept coupling =>
      refine preserves_bind preserves_get (fun between => ?_) space holds
      refine preserves_bind (preserves_onMeshes fun space kept => filters space _ _ kept)
        fun _ => ?_
      exact preserves_forM _ fun entry _ => filtersSheet accept entry.2
  | onMesh grid operation => exact mesh grid operation rfl holds

/-! ### Integers -/

/-- Addresses of cells, and what sheets and couplings know of model cells and height points, are
integers. -/
structure Integral (space : CouplingSpace α) : Prop where
  addresses : space.meshes.HasAddresses
  sheets : ∀ ref, (space.sheets.get ref).Integral
  couplings : ∀ ref, space.couplings.Holds ref →
    ∃ n, (space.couplings.get ref).heightPoints = .int n

theorem exists_address_of_mem (addresses : space.meshes.HasAddresses)
    {ref : Ref (SharedSheet α)} {cell : Cell α}
    (member : cell ∈ (space.viewSheet ref).exchangeMesh.cells.items) : ∃ i, cell.i = .int i := by
  have items : (space.viewSheet ref).exchangeMesh.cells.items =
      (space.meshes.grids.get (space.sheets.get ref).exchangeMesh).cells.items.map
        space.meshes.cells.get := Table.items_map ..
  rw [items] at member
  obtain ⟨cellRef, _, rfl⟩ := List.mem_map.mp member
  exact addresses cellRef

theorem Integral.setOverlaps (integral : space.Integral) (ref : Ref (SharedSheet α))
    {overlaps : Option (List (Overlap α))}
    (own : ∀ listed, overlaps = some listed → ∀ overlap ∈ listed,
      ∃ i, overlap.modelCell = .int i ∧ 0 ≤ i) : (space.setOverlaps ref overlaps).Integral where
  addresses := integral.addresses
  sheets := fun other => Heap.holds_get_set (integral.sheets other) fun _ =>
    ⟨own, (integral.sheets ref).extent, (integral.sheets ref).heights⟩
  couplings := integral.couplings

theorem Integral.joinSheet (integral : space.Integral) {coupling : Ref (Coupling α)}
    (held : space.couplings.Holds coupling) (sheet : Ref (SharedSheet α)) :
    (space.joinSheet coupling sheet).Integral where
  addresses := integral.addresses
  sheets := fun other => Heap.holds_get_set (integral.sheets other) fun _ =>
    ⟨(integral.sheets sheet).cached, .inr ⟨_, rfl⟩, integral.couplings coupling held⟩
  couplings := by
    intro other otherHeld
    by_cases same : other = coupling
    · subst same
      rw [CouplingSpace.joinSheet, Heap.get_set_same held]
      exact integral.couplings other held
    · rw [CouplingSpace.joinSheet, Heap.get_set_other same]
      exact integral.couplings other (Heap.holds_set.mp otherHeld)

theorem Integral.filtered (integral : space.Integral) (grid : Ref (SharedGrid α))
    (accept : Int → Except Error Bool) : Integral { space with
      meshes := ((MeshSpace.filterCells grid accept).outcome space.meshes).2 } :=
  have filtered : ((MeshSpace.Operation.filterCells accept).perform grid).Preserves
      MeshSpace.HasAddresses := MeshSpace.Operation.perform_addresses grid trivial
  { integral with addresses := filtered space.meshes integral.addresses }

theorem Integral.onMesh (integral : space.Integral) (grid : Ref (SharedGrid α))
    {operation : MeshSpace.Operation α} (own : operation.Addresses) : Integral { space with
      meshes := ((operation.perform grid).outcome space.meshes).2 } :=
  { integral with
    addresses := MeshSpace.Operation.perform_addresses grid own space.meshes integral.addresses }

/-- A list of overlaps is made for an extent, and its model cells lie inside. -/
theorem Integral.listed (integral : space.Integral) {ref : Ref (SharedSheet α)}
    {overlaps : List (Overlap α)} (listed : (space.viewSheet ref).listOverlaps = .ok overlaps) :
    ∃ n, (space.sheets.get ref).modelExtent = .int n ∧
      ∀ overlap ∈ overlaps, ∃ i, overlap.modelCell = .int i ∧ 0 ≤ i ∧ i < n := by
  rcases (integral.sheets ref).extent with unset | ⟨n, extent⟩
  · have checked := (Sheet.listOverlaps_eq_ok_iff.mp listed).1
    exact absurd unset (Sheet.extent_ne_null_of_check checked)
  · exact ⟨n, extent, Sheet.exists_modelCell_of_mem_listOverlaps listed
      (fun _ member => exists_address_of_mem integral.addresses member) extent⟩

theorem Integral.setOverlaps_listed (integral : space.Integral) {ref : Ref (SharedSheet α)}
    {overlaps : List (Overlap α)} (listed : (space.viewSheet ref).listOverlaps = .ok overlaps) :
    (space.setOverlaps ref (some overlaps)).Integral := by
  refine integral.setOverlaps ref fun others same overlap member => ?_
  obtain rfl := Option.some.inj same
  obtain ⟨_, _, inside⟩ := integral.listed listed
  obtain ⟨i, modelCell, natural, _⟩ := inside overlap member
  exact ⟨i, modelCell, natural⟩

/-- Integers stay integers along every run. -/
theorem Integral.perform (integral : space.Integral) {step : Step α}
    (admissible : step.Admissible space) : (step.perform.outcome space).2.Integral := by
  refine Step.perform_preserves ?_ ?_ ?_ ?_ ?_ integral
  · intro between ref overlaps listed kept
    exact kept.setOverlaps_listed listed
  · intro between ref kept
    exact kept.setOverlaps ref nofun
  · intro between grid accept kept
    exact kept.filtered grid accept
  · rintro grid operation rfl kept
    exact kept.onMesh grid admissible
  · rintro coupling sheet rfl kept
    exact kept.joinSheet admissible.1 sheet

end CouplingSpace

end Regrid
