import Regrid.Proofs.Mesh.Geometry
import Regrid.Proofs.Shared.Renumbering
import Regrid.Scalar.Rational

/-!
Contract: whatever is done to a mesh, in whatever order, its bookkeeping stays intact.

Owns:
- the operations on one mesh, and the spaces that runs of them reach, refused calls included;
- the invariant of reached meshes, and what readers of a reached mesh can rely on.

Does not own: operations on several meshes that share entities.
-/

namespace Regrid.MeshSpace

open Attempt

variable {α : Type} [Scalar α]

/-- A call on a mesh, or the making of an entity for one. -/
inductive Operation (α : Type) where
  | makeVertex (vertex : Vertex α)
  | makeCell (cell : Cell α)
  | addVertex (vertex : Ref (Vertex α))
  | addCell (cell : Ref (Cell α))
  | addPolygon (points : List (α × α)) (cell : Cell α)
  | fixExtent (kind : EntityKind) (extent : Int)
  | setCoordinates (coordinates projection : Value)
  | computeAreas
  | sortRenumber
  | filterCells (accept : Int → Except Error Bool)
  | clear

/-- What an operation does to the space. -/
def Operation.perform (grid : Ref (SharedGrid α)) : Operation α → Attempt (MeshSpace α) Unit
  | makeVertex vertex => do let _ ← MeshSpace.makeVertex vertex
  | makeCell cell => do let _ ← MeshSpace.makeCell cell
  | addVertex vertex => MeshSpace.addVertex grid vertex
  | addCell cell => MeshSpace.addCell grid cell
  | addPolygon points cell => do let _ ← MeshSpace.addPolygon grid points cell
  | fixExtent kind extent => change grid (Mesh.fixExtent kind (.int extent))
  | setCoordinates coordinates projection =>
      change grid (Mesh.setCoordinates coordinates projection)
  | computeAreas => MeshSpace.computeAreas grid
  | sortRenumber => MeshSpace.sortRenumber grid
  | filterCells accept => MeshSpace.filterCells grid accept
  | clear => change grid fun mesh => .ok mesh.clear

/-- An operation is handed an entity that exists. -/
def Operation.Admissible (space : MeshSpace α) : Operation α → Prop
  | addVertex vertex => space.vertices.Holds vertex
  | addCell cell => space.cells.Holds cell
  | _ => True

/-- The spaces in which a mesh is found after it was created empty and then handed from one
operation to the next, whether they were refused or not. -/
inductive Reached (grid : Ref (SharedGrid α)) : MeshSpace α → Prop where
  | created {name : Value} {type : GridType} {coordinates : Coordinates}
      {parameterization : Parameterization} {projection : Value} {mesh : SharedGrid α}
      {grids : Heap (SharedGrid α)} (space : MeshSpace α)
      (created : Mesh.create name type coordinates parameterization projection = .ok mesh)
      (made : space.grids.make mesh = (grid, grids)) :
      Reached grid { space with grids }
  | performed {space : MeshSpace α} (reached : Reached grid space) (operation : Operation α)
      (admissible : operation.Admissible space) :
      Reached grid ((operation.perform grid).outcome space).2

variable {grid : Ref (SharedGrid α)} {space : MeshSpace α}

/-- Every operation keeps the invariant. -/
theorem Keeps.perform (keeps : space.Keeps grid) (operation : Operation α)
    (admissible : operation.Admissible space) :
    ((operation.perform grid).outcome space).2.Keeps grid := by
  cases operation with
  | makeVertex vertex => exact makeVertex_keeps vertex keeps
  | makeCell cell => exact makeCell_keeps cell keeps
  | addVertex vertex => exact keeps.addVertex admissible
  | addCell cell => exact keeps.addCell admissible
  | addPolygon points cell =>
      exact holds_bind (addPolygon_preserves points cell space keeps) fun _ _ kept => kept
  | fixExtent kind extent => exact keeps.fixExtent kind extent
  | setCoordinates coordinates projection => exact keeps.setCoordinates coordinates projection
  | computeAreas => exact computeAreas_preserves space keeps
  | sortRenumber =>
      obtain ⟨after, done, kept⟩ := sortRenumber_answers keeps
      rw [Operation.perform, done]
      exact kept
  | filterCells accept => exact keeps.filterCells accept
  | clear => exact keeps.clear

/-- A new mesh keeps the invariant, since it is empty. -/
theorem keeps_created {name : Value} {type : GridType} {coordinates : Coordinates}
    {parameterization : Parameterization} {projection : Value} {mesh : SharedGrid α}
    (space : MeshSpace α)
    (created : Mesh.create name type coordinates parameterization projection = .ok mesh) :
    Keeps (space.grids.make mesh).1 { space with grids := (space.grids.make mesh).2 } := by
  have now := Heap.get_make_new space.grids mesh
  have sound : mesh.Sound space.reading := Mesh.sound_create created
  obtain ⟨_, _, same⟩ := bind_eq_ok created
  cases same
  constructor
  · exact Heap.holds_make space.grids _
  · rw [now]
    exact nofun
  · rw [now]
    exact nofun
  · rw [now]
    exact sound

/-- The invariant holds after every run. -/
theorem Reached.keeps (reached : Reached grid space) : space.Keeps grid := by
  induction reached with
  | created space created made =>
      have keeps := keeps_created space created
      rw [made] at keeps
      exact keeps
  | performed _ operation admissible inductionHypothesis =>
      exact inductionHypothesis.perform operation admissible

/-- After every run of operations on a mesh, refused ones included, keys, largest keys,
extents, references and tags of the mesh agree. So an entity without an index is never
refused as a repeated one, every stored cell has a polygon, and the vector of areas holds the
area of each stored cell at its own index and `fill` at all other positions. -/
theorem reached_mesh_is_consistent (reached : Reached grid space) :
    (space.view grid).Sound (.held α) ∧
      (∀ vertex kind key, (space.vertices.get vertex).index = .null →
        ((addVertex grid vertex).outcome space).1 ≠ .error (.repeatedIndex kind key)) ∧
      (∀ cell kind key, (space.cells.get cell).index = .null →
        ((addCell grid cell).outcome space).1 ≠ .error (.repeatedIndex kind key)) ∧
      (∀ points (cell : Cell α) kind key, cell.index = .null →
        ((addPolygon grid points cell).outcome space).1 ≠ .error (.repeatedIndex kind key)) ∧
      (∀ cell ∈ (space.view grid).cells.items,
        ∃ polygon, (space.view grid).polygon cell = .ok polygon) ∧
      ∀ fill : α, (space.view grid).areaVector fill = (do
        checkLength (space.view grid).cells.extent
        return (List.range (space.view grid).cells.extent.toNat).map fun position : Nat =>
          (((space.view grid).cells.get? (position : Int)).map Cell.area).getD fill) := by
  have keeps := reached.keeps
  refine ⟨keeps.view, ?_, ?_, ?_, ?_, ?_⟩
  · intro vertex kind key unset refused
    exact addVertex_avoids_repetition keeps unset refused ⟨kind, key, rfl⟩
  · intro cell kind key unset refused
    exact addCell_avoids_repetition keeps unset refused ⟨kind, key, rfl⟩
  · intro points cell kind key unset refused
    exact addPolygon_avoids points unset space keeps _ refused ⟨kind, key, rfl⟩
  · intro cell member
    exact keeps.view.exists_polygon member
  · intro fill
    exact keeps.view.cellVector fill fun _ _ => rfl

/-- A triangle in an empty mesh, after its extent was fixed below its index and the call was
refused. -/
theorem triangle_mesh_is_consistent :
    ∃ space : MeshSpace Rat, Reached ⟨0⟩ space ∧ (space.view ⟨0⟩).cells.size = 1 ∧
      (space.view ⟨0⟩).Sound (.held Rat) := by
  have created : Reached (α := Rat) ⟨0⟩ { grids := ⟨#[{}]⟩ } :=
    .created {} (rfl : Mesh.create (.text "") .generic .lonLat .onCells (.text "") = .ok {}) rfl
  have filled := created.performed (.addPolygon [(0, 0), (1, 0), (0, 1)] { area := 0 }) trivial
  have refused := filled.performed (.fixExtent .cell 0) trivial
  exact ⟨_, refused, by decide +kernel, (reached_mesh_is_consistent refused).1⟩

end Regrid.MeshSpace
