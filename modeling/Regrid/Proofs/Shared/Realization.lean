import Regrid.Proofs.Coupling.Realization
import Regrid.Proofs.Shared.CouplingSpace
import Regrid.Proofs.Shared.Sharing

/-!
Contract: what realizing a sheet settles, on meshes that may be shared.

Owns:
- that realization is refused for the values of its inputs only, and then changes nothing;
- that after it the operators and areas of the sheet are there, as long as the sheet keeps its
  ice mesh and its extents;
- a sheet on a mesh that was renumbered through another one, where neither holds.

Does not own: runs of steps on meshes, and what the operators do.
-/

namespace Regrid

open Attempt MeshSpace

variable {α : Type}

namespace CouplingSpace

variable [Scalar α] {space : CouplingSpace α} {ref : Ref (SharedSheet α)}

theorem viewSheet_setOverlaps (held : space.sheets.Holds ref)
    (overlaps : Option (List (Overlap α))) :
    (space.setOverlaps ref overlaps).viewSheet ref = { space.viewSheet ref with overlaps } := by
  have now : (space.setOverlaps ref overlaps).sheets.get ref =
      { space.sheets.get ref with overlaps } := Heap.get_set_same held _
  unfold viewSheet
  rw [now]
  rfl

/-- Realization is a sufficient check. On meshes on which vertices were renumbered only where that
spares the other meshes, a sheet with inputs of the types that it asks for is refused for their
values only, and the refusal leaves everything as it was. Otherwise each overlap that is now kept
rests on the meshes, and from then on nothing is refused, as long as the sheet has the same ice
mesh and extents and keeps these overlaps, and its classifier finds a height point for each of
them. -/
theorem realization_suffices (run : SharedRun SparesOthers space.meshes)
    (held : space.sheets.Holds ref)
    (iceHeld : space.meshes.grids.Holds (space.sheets.get ref).iceMesh)
    (typed : (space.viewSheet ref).Typed) :
    (∀ reason left, (realize ref).outcome space = (.error reason, left) →
      reason.kind = .value ∧ left = space) ∧
    ∀ left, (realize ref).outcome space = (.ok (), left) →
      ∃ overlaps modelExtent heightPoints,
        left.viewSheet ref = { space.viewSheet ref with overlaps := some overlaps } ∧
        (space.viewSheet ref).modelExtent = .int modelExtent ∧
        (space.viewSheet ref).heightPoints = .int heightPoints ∧
        (∀ overlap ∈ overlaps, (space.viewSheet ref).Supports modelExtent overlap) ∧
        ∀ later : Sheet (Grid α) α, later.Remains (space.viewSheet ref) overlaps →
          later.Classified heightPoints overlaps → later.Computes modelExtent heightPoints := by
  have sound : (space.viewSheet ref).iceMesh.Sound (.held α) := (run.keeps _ iceHeld).view
  have refuses := typed.refusesWith_listOverlaps sound
  rw [outcome_realize]
  cases listed : (space.viewSheet ref).listOverlaps with
  | error other =>
      refine ⟨fun reason left refused => ?_, nofun⟩
      cases refused
      exact ⟨List.mem_singleton.mp (refuses other listed), rfl⟩
  | ok overlaps =>
      refine ⟨nofun, fun left done => ?_⟩
      cases done
      obtain ⟨checked, _⟩ := Sheet.listOverlaps_eq_ok_iff.mp listed
      obtain ⟨modelExtent, extent⟩ := typed.exists_modelExtent checked
      obtain ⟨heightPoints, heights⟩ := typed.heights
      exact ⟨overlaps, modelExtent, heightPoints, viewSheet_setOverlaps held (some overlaps),
        extent, heights, typed.supports_of_mem sound extent listed, fun later remains classified =>
          typed.computes_of_listed sound extent heights listed remains classified⟩

/-! ### One data point -/

/-- A sheet with a value per vertex, one model cell and a mask for one data point. -/
def onePointSheet {γ : Type} (iceMesh exchangeMesh : γ) : Sheet γ Rat where
  variant := .onVertices
  name := .text "ice"
  iceMesh
  exchangeMesh
  modelExtent := .int 1
  mask := some ⟨[1], [false]⟩

/-- The sheet on the second and third of the meshes. -/
def onePoint (meshes : MeshSpace Rat) : CouplingSpace Rat where
  meshes
  sheets := ⟨#[onePointSheet ⟨1⟩ ⟨2⟩]⟩

/-- Three empty meshes, of which the last one is an exchange mesh. -/
def threeMeshes : MeshSpace Rat where
  grids := ⟨#[{}, { parameterization := .onVertices }, { type := .exchange }]⟩

theorem threeMeshes_reached {allowed : MeshSpace Rat → Ref (SharedGrid Rat) → Prop} :
    SharedRun allowed threeMeshes := by
  have first : Mesh.create (.text "") .generic .lonLat .onCells (.text "") =
      .ok ({} : SharedGrid Rat) := rfl
  have second : Mesh.create (.text "") .generic .lonLat .onVertices (.text "") =
      .ok ({ parameterization := .onVertices } : SharedGrid Rat) := rfl
  have third : Mesh.create (.text "") .exchange .lonLat .onCells (.text "") =
      .ok ({ type := .exchange } : SharedGrid Rat) := rfl
  exact .created (.created (.created .empty first) second) third

/-- The first two meshes share a cell with a reference to vertex zero, which both of them have. In
the first mesh there is another vertex before it by position. The exchange mesh covers the cell. -/
def sharedCell : MeshSpace Rat :=
  performAll [(⟨0⟩, .makeVertex ⟨1, 0, .null⟩), (⟨0⟩, .addVertex ⟨0⟩),
    (⟨0⟩, .makeVertex ⟨0, 0, .null⟩), (⟨0⟩, .addVertex ⟨1⟩),
    (⟨0⟩, .makeCell { vertices := [.int 0], area := 0 }), (⟨0⟩, .addCell ⟨0⟩),
    (⟨1⟩, .makeVertex ⟨1, 0, .null⟩), (⟨1⟩, .addVertex ⟨2⟩), (⟨1⟩, .addCell ⟨0⟩),
    (⟨2⟩, .makeCell { i := .int 0, j := .int 0, area := 1 }), (⟨2⟩, .addCell ⟨1⟩)] threeMeshes

theorem sharedCell_reached {allowed : MeshSpace Rat → Ref (SharedGrid Rat) → Prop} :
    SharedRun allowed sharedCell := by
  refine threeMeshes_reached.performAll ⟨?_, trivial, nofun, ?_, ?_, nofun, ?_, trivial, nofun, ?_,
    ?_, nofun, ?_, trivial, nofun, ?_, ?_, nofun, ?_, trivial, nofun, ?_, ?_, nofun, ?_, ?_, nofun,
    ?_, trivial, nofun, ?_, ?_, nofun, trivial⟩
  all_goals
    show _ < _
    decide

theorem onePointSheet_typed {iceMesh : Grid Rat}
    (references : ∀ cell ∈ iceMesh.cells.items, ∀ vertex ∈ cell.vertices, ∃ p, vertex = .int p) :
    (onePointSheet iceMesh (sharedCell.view ⟨2⟩)).Typed where
  extent := .inr ⟨1, rfl⟩
  heights := ⟨1, rfl⟩
  modelCells := by
    intro cell member
    obtain rfl := List.mem_singleton.mp member
    exact ⟨0, rfl⟩
  iceCells := by
    intro cell member
    obtain rfl := List.mem_singleton.mp member
    exact ⟨0, rfl⟩
  references
  mask := by
    intro mask same
    obtain rfl := Option.some.inj same
    rfl
  elevation := nofun

/-- As long as the first mesh is not renumbered, the sheet can be realized and averages onto its
data point. -/
theorem shared_cell_suffices : ∃ left operator,
    (realize ⟨0⟩).outcome (onePoint sharedCell) = (.ok (), left) ∧
      (left.viewSheet ⟨0⟩).heightToIce = .ok operator ∧ operator.nativeShape = (1, 1) := by
  have typed : ((onePoint sharedCell).viewSheet ⟨0⟩).Typed := by
    refine onePointSheet_typed fun cell member vertex named => ?_
    obtain rfl := List.mem_singleton.mp member
    obtain rfl := List.mem_singleton.mp named
    exact ⟨0, rfl⟩
  obtain ⟨overlaps, listed⟩ : ∃ overlaps,
      ((onePoint sharedCell).viewSheet ⟨0⟩).listOverlaps = .ok overlaps := ⟨_, rfl⟩
  have done := outcome_realize ⟨0⟩ (onePoint sharedCell)
  rw [listed] at done
  have run : SharedRun SparesOthers (onePoint sharedCell).meshes := sharedCell_reached
  obtain ⟨kept, _, _, view, extent, heights, _, computes⟩ :=
    (realization_suffices run (by show _ < _; decide) (by show _ < _; decide) typed).2 _ done
  cases extent
  cases heights
  have remains : ((setOverlaps ⟨0⟩ (some overlaps) (onePoint sharedCell)).viewSheet ⟨0⟩).Remains
      ((onePoint sharedCell).viewSheet ⟨0⟩) kept := by
    rw [view]
    exact ⟨rfl, rfl, rfl, rfl⟩
  obtain ⟨operator, made, shape⟩ := (computes _ remains (by rw [view]; nofun)).heightToIce
  refine ⟨_, operator, done, made, shape.trans ?_⟩
  rw [view]
  rfl

theorem sharedCell_numbered :
    numberedVertices (sharedCell.grids.get ⟨0⟩) sharedCell = [(⟨1⟩, 0), (⟨0⟩, 1)] := by
  have items : (sharedCell.grids.get ⟨0⟩).vertices.items = [⟨0⟩, ⟨1⟩] := by decide
  rw [numberedVertices, items, PointOrder.sort_eq_of_perm [⟨1⟩, ⟨0⟩]]
  · rfl
  · decide
  · decide

/-- Renumbering the first mesh renames the reference of the shared cell, and nothing else on the
other two meshes. -/
theorem sharedCell_renumbered {after : MeshSpace Rat}
    (renumbered : Renumbered ⟨0⟩ sharedCell after) :
    after.view ⟨1⟩ = {
      parameterization := .onVertices
      vertices := { entries := [(0, after.vertices.get ⟨2⟩)], top := 0 }
      cells :=
        { entries := [(0, { vertices := [.int 1], index := .int 0, area := 0 })], top := 0 } } ∧
    after.view ⟨2⟩ = sharedCell.view ⟨2⟩ := by
  have cells : (sharedCell.grids.get ⟨0⟩).cells.items = [⟨0⟩] := rfl
  have renamed : after.cells.get ⟨0⟩ = { vertices := [.int 1], index := .int 0, area := 0 } := by
    have names := renumbered.renamed ⟨0⟩ (by rw [cells]; decide)
    rw [newNames, sharedCell_numbered] at names
    exact (Except.ok.inj names).symm
  have kept : after.cells.get ⟨1⟩ = sharedCell.cells.get ⟨1⟩ :=
    renumbered.otherCells ⟨1⟩ (by rw [cells]; decide)
  constructor
  · rw [MeshSpace.view, renumbered.grid_other (by decide), ← renamed]
    rfl
  · rw [MeshSpace.view, renumbered.grid_other (by decide)]
    show ({ type := .exchange, cells := { entries := [(0, after.cells.get ⟨1⟩)], top := 0 } } :
      Grid Rat) = _
    rw [kept]
    rfl

/-- After the first mesh renumbered its vertices, the shared cell refers to a vertex that the ice
mesh does not have, and the mask is read beyond its end. -/
theorem renumbered_cell_escapes_the_check :
    SharedRun (fun _ _ => True) (performAll [(⟨0⟩, .sortRenumber)] sharedCell) ∧
      ((onePoint (performAll [(⟨0⟩, .sortRenumber)] sharedCell)).viewSheet ⟨0⟩).Typed ∧
      ∃ reason left, (realize ⟨0⟩).outcome
          (onePoint (performAll [(⟨0⟩, .sortRenumber)] sharedCell)) = (.error reason, left) ∧
        reason.kind = .position := by
  have first : sharedCell.grids.Holds ⟨0⟩ := by decide
  obtain ⟨after, done, renumbered⟩ := exists_renumbered (sharedCell_reached.keeps ⟨0⟩ first)
  have reached : performAll [(⟨0⟩, .sortRenumber)] sharedCell = after := congrArg Prod.snd done
  have early : SharedRun (fun _ _ => True) sharedCell := sharedCell_reached
  have run := early.performed first .sortRenumber trivial fun _ => trivial
  rw [Operation.perform, done] at run
  obtain ⟨iceMesh, exchangeMesh⟩ := sharedCell_renumbered renumbered
  have view : (onePoint after).viewSheet ⟨0⟩ =
      onePointSheet (after.view ⟨1⟩) (after.view ⟨2⟩) := rfl
  have refused : ((onePoint after).viewSheet ⟨0⟩).listOverlaps = .error .positionOutside := by
    rw [view, iceMesh, exchangeMesh]
    rfl
  have outcome := outcome_realize ⟨0⟩ (onePoint after)
  rw [refused] at outcome
  rw [reached]
  refine ⟨run, ?_, .positionOutside, _, outcome, rfl⟩
  rw [view, iceMesh, exchangeMesh]
  refine onePointSheet_typed fun cell member vertex named => ?_
  obtain rfl := List.mem_singleton.mp member
  obtain rfl := List.mem_singleton.mp named
  exact ⟨1, rfl⟩

end CouplingSpace

end Regrid
