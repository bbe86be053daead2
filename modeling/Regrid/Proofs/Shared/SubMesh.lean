import Regrid.Proofs.Shared.Filtering
import Regrid.Proofs.Shared.Reachable

/-!
Contract: filtering the cells of a mesh leaves the sub-mesh of the cells that pass.

Owns:
- what it means that a table or a mesh is part of another one;
- that filtering answers with the part of the mesh that its test selects, that filtering
  twice is filtering once by both tests, and what becomes of the areas.

Does not own: tests that refuse to answer.
-/

namespace Regrid

open Attempt

/-! ### Parts of a table -/

namespace Table

variable {ι : Type}

/-- A table holds the entries of another one that pass a test, in their order and in the same
key space. Its top is the largest key that is left, and `-1` where none is left. -/
structure Part (keeps : Int → Bool) (whole part : Table ι) : Prop where
  entries : part.entries = whole.entries.filter fun entry => keeps entry.1
  extent : part.extent = whole.extent
  top_none : part.entries = [] → part.top = -1
  top_mem : part.entries ≠ [] → part.top ∈ part.keys
  le_top : ∀ key ∈ part.keys, key ≤ part.top

theorem part_restricted {indexOf : ι → Value} {table : Table ι}
    (wellKeyed : table.WellKeyed indexOf) (keeps : Int → Bool) :
    table.Part keeps (table.restricted fun key _ => keeps key) where
  entries := rfl
  extent := extent_restricted ..
  top_none := by
    intro none
    have gone : (table.entries.filter fun entry => keeps entry.1) = [] := none
    simp only [restricted, gone, List.map_nil, topOf, List.foldl_nil]
  top_mem := by
    intro some
    apply topOf_mem
    · intro key used
      exact wellKeyed.natural key ((keys_restricted_sublist ..).subset used)
    · exact fun none => some (List.map_eq_nil_iff.mp none)
  le_top := fun _ used => le_topOf used

theorem map_restricted {κ : Type} (f : ι → κ) (keeps : Int → κ → Bool) (table : Table ι) :
    (table.restricted fun key item => keeps key (f item)).map f =
      (table.map f).restricted keeps := by
  simp only [map, restricted, List.filter_map, List.map_map]
  rfl

theorem contains_eq_isSome (table : Table ι) (key : Int) :
    table.contains key = (table.get? key).isSome := by
  rw [Bool.eq_iff_iff, contains, get?, Option.isSome_map, List.find?_isSome, List.any_eq_true]

/-- A key that passes leads to the entity that it led to, and other keys to none. -/
theorem get?_restricted (keeps : Int → Bool) (table : Table ι) (key : Int) :
    (table.restricted fun key _ => keeps key).get? key =
      if keeps key then table.get? key else none := by
  have tests : (table.entries.filter fun entry => keeps entry.1).find? (fun entry => entry.1 == key)
      = table.entries.find? fun entry => keeps key && entry.1 == key := by
    rw [List.find?_filter]
    congr 1
    funext entry
    by_cases own : entry.1 = key
    · simp [own]
    · simp [own]
  show ((table.entries.filter fun entry => keeps entry.1).find? _).map _ = _
  rw [tests]
  cases keeps key with
  | true => simp only [Bool.true_and]; rfl
  | false => simp

end Table

/-! ### Parts of a mesh -/

namespace Mesh

variable {ν κ ν' κ' : Type}

/-- A mesh holds the cells of another one whose keys pass a test and the vertices that these
refer to. The tags and the length of a field are the same. -/
structure SubMesh (references : κ → List Value) (keeps : Int → Bool) (whole part : Mesh ν κ) :
    Prop where
  cells : whole.cells.Part keeps part.cells
  vertices : whole.vertices.Part (fun key => whole.cells.entries.any fun entry =>
    keeps entry.1 && (references entry.2).any (·.name? = some key)) part.vertices
  fieldLength : part.fieldLength = whole.fieldLength
  name : part.name = whole.name
  type : part.type = whole.type
  coordinates : part.coordinates = whole.coordinates
  parameterization : part.parameterization = whole.parameterization
  projection : part.projection = whole.projection

theorem subMesh_restricted {reading : Reading ν κ} {mesh : Mesh ν κ} (sound : mesh.Sound reading)
    (references : κ → List Value) (keeps : Int → Bool) :
    mesh.SubMesh references keeps (mesh.restricted references fun key _ => keeps key) where
  cells := Table.part_restricted sound.cells keeps
  vertices := Table.part_restricted sound.vertices _
  fieldLength := fieldLength_restricted ..
  name := rfl
  type := rfl
  coordinates := rfl
  parameterization := rfl
  projection := rfl

/-- A mesh can be restricted before or after its entries are replaced. -/
theorem map_restricted (f : ν → ν') (g : κ → κ') (references : κ' → List Value)
    (keeps : Int → κ' → Bool) (mesh : Mesh ν κ) :
    (mesh.restricted (fun cell => references (g cell)) fun key cell => keeps key (g cell)).map f g =
      (mesh.map f g).restricted references keeps := by
  have vertices := Table.map_restricted f
    (fun key _ => mesh.cells.entries.any fun entry =>
      keeps entry.1 (g entry.2) && (references (g entry.2)).any (·.name? = some key)) mesh.vertices
  have tests : ∀ key, ((mesh.map f g).cells.entries.any fun entry =>
      keeps entry.1 entry.2 && (references entry.2).any (·.name? = some key)) =
        mesh.cells.entries.any fun entry =>
          keeps entry.1 (g entry.2) && (references (g entry.2)).any (·.name? = some key) := by
    intro key
    show (List.any (List.map _ _) _) = _
    rw [List.any_map]
    rfl
  simp only [restricted, tests]
  simp only [map, vertices, Table.map_restricted]

/-- The vector over the domain of what is computed from each cell that is left: the earlier
vector, with `fill` at the cells that were removed. -/
theorem Sound.cellVector_restricted {α : Type} [Scalar α] {grid : Grid α}
    (sound : grid.Sound (.held α)) (fill : α) (f : Cell α → α) (keeps : Int → Bool)
    (partSound : (grid.restricted Cell.vertices fun key _ => keeps key).Sound (.held α)) :
    (grid.restricted Cell.vertices fun key _ => keeps key).cellVector fill (fun cell => .ok (f cell))
      = do
        let earlier ← grid.cellVector fill fun cell => .ok (f cell)
        return earlier.mapIdx fun position x =>
          if grid.cells.contains (position : Int) && !keeps position then fill else x := by
  rw [sound.cellVector fill fun _ _ => rfl, partSound.cellVector fill fun _ _ => rfl]
  have extent : (grid.restricted Cell.vertices fun key _ => keeps key).cells.extent =
      grid.cells.extent := rfl
  rw [extent]
  cases checkLength grid.cells.extent with
  | error reason => rfl
  | ok _ =>
      refine congrArg Except.ok (List.ext_getElem? fun position => ?_)
      simp only [List.getElem?_map, List.getElem?_mapIdx, Option.map_map]
      by_cases inside : position < grid.cells.extent.toNat
      · rw [List.getElem?_range inside]
        show some (((grid.cells.restricted fun key _ => keeps key).get? _).map f |>.getD fill) =
          some (if _ then fill else ((grid.cells.get? _).map f).getD fill)
        rw [Table.get?_restricted, Table.contains_eq_isSome]
        -- where no cell was realized, the earlier vector holds `fill` as well
        cases keeps position <;> cases grid.cells.get? position <;> rfl
      · rw [List.getElem?_eq_none (by simpa using inside)]
        rfl

end Mesh

/-! ### Filtering in a space -/

namespace MeshSpace

variable {α : Type} [Scalar α] {grid : Ref (SharedGrid α)} {space : MeshSpace α}

/-- The references of a sound mesh can be looked up. -/
theorem Keeps.filters (keeps : space.Keeps grid) : space.Filters grid where
  placed := keeps.placed
  distinct := keeps.sound.cells.distinct
  known := by
    intro cell member reference referenceMember
    obtain ⟨key, _, read⟩ := keeps.sound.references cell member reference referenceMember
    exact ⟨some key, read⟩

/-- The mesh with the cells whose keys pass a test. -/
def partOf (space : MeshSpace α) (grid : Ref (SharedGrid α)) (p : Int → Bool) : SharedGrid α :=
  restrictGrid space.cells (fun key _ => p key) (space.grids.get grid)

/-- The space with the mesh replaced by a part of it. -/
def filtered (space : MeshSpace α) (grid : Ref (SharedGrid α)) (p : Int → Bool) : MeshSpace α :=
  space.setGrid grid (space.partOf grid p)

theorem Filters.outcome_filtered (filters : space.Filters grid) (p : Int → Bool) :
    (filterCells grid fun key => .ok (p key)).outcome space =
      (.ok (), space.filtered grid p) :=
  filters.outcome_filterCells _ (fun key _ => p key) fun _ _ => rfl

theorem Filters.get_filtered (filters : space.Filters grid) (p : Int → Bool) :
    (space.filtered grid p).grids.get grid = space.partOf grid p :=
  Heap.get_set_same filters.placed _

theorem Filters.filtered (filters : space.Filters grid) (p : Int → Bool) :
    (space.filtered grid p).Filters grid :=
  filters.restricted (Heap.holds_set.mpr filters.placed) rfl (filters.get_filtered p)

/-- Two parts in a row are one part. -/
theorem Filters.filtered_filtered (filters : space.Filters grid) (p q : Int → Bool) :
    (space.filtered grid p).filtered grid q = space.filtered grid fun key => p key && q key := by
  have parts : (space.filtered grid p).partOf grid q =
      space.partOf grid fun key => p key && q key := by
    show restrictGrid space.cells (fun key _ => q key) ((space.filtered grid p).grids.get grid) = _
    rw [filters.get_filtered p]
    exact Mesh.restricted_restricted (fun key _ => p key) fun key _ => q key
  unfold MeshSpace.filtered at parts ⊢
  rw [parts]
  simp only [setGrid, Heap.set_set]

theorem Filters.outcome_filter_filter (filters : space.Filters grid) (p q : Int → Bool) :
    (do
      filterCells grid fun key => .ok (p key)
      filterCells grid fun key => .ok (q key) : Attempt (MeshSpace α) Unit).outcome space =
        (.ok (), space.filtered grid fun key => p key && q key) := by
  rw [outcome_bind_of_ok (filters.outcome_filtered p), (filters.filtered p).outcome_filtered q,
    filters.filtered_filtered]

/-- What is seen of the part is the part of what was seen. -/
theorem Filters.view_filtered (filters : space.Filters grid) (p : Int → Bool) :
    (space.filtered grid p).view grid =
      (space.view grid).restricted Cell.vertices fun key _ => p key := by
  unfold view
  rw [filters.get_filtered p]
  exact Mesh.map_restricted space.vertices.get space.cells.get Cell.vertices (fun key _ => p key) _

/-- Filtering a mesh by a test of its cells is never refused, whatever was done to it before. It
keeps the records of all entities and all other meshes, and leaves the sub-mesh of the cells that
pass. The areas are the earlier ones, with `fill` at the cells that were removed. Filtering by two
tests is filtering by both at once, so the order of tests does not matter and a test does not matter
a second time. -/
theorem filtering_leaves_the_subMesh (keeps : space.Keeps grid) (p q : Int → Bool) :
    ∃ part,
      (filterCells grid fun key => .ok (p key)).outcome space = (.ok (), space.setGrid grid part) ∧
      (space.setGrid grid part).Keeps grid ∧
      (space.grids.get grid).SubMesh (fun cell => (space.cells.get cell).vertices) p part ∧
      (space.view grid).SubMesh Cell.vertices p ((space.setGrid grid part).view grid) ∧
      (∀ fill : α, ((space.setGrid grid part).view grid).areaVector fill = do
        let earlier ← (space.view grid).areaVector fill
        return earlier.mapIdx fun position area =>
          if (space.view grid).cells.contains (position : Int) && !p position then fill
          else area) ∧
      (do
        filterCells grid fun key => .ok (p key)
        filterCells grid fun key => .ok (q key) : Attempt (MeshSpace α) Unit).outcome space =
          (filterCells grid fun key => .ok (p key && q key)).outcome space ∧
      (do
        filterCells grid fun key => .ok (p key)
        filterCells grid fun key => .ok (q key) : Attempt (MeshSpace α) Unit).outcome space =
          (do
            filterCells grid fun key => .ok (q key)
            filterCells grid fun key => .ok (p key) : Attempt (MeshSpace α) Unit).outcome space ∧
      (do
        filterCells grid fun key => .ok (p key)
        filterCells grid fun key => .ok (p key) : Attempt (MeshSpace α) Unit).outcome space =
          (filterCells grid fun key => .ok (p key)).outcome space := by
  have filters := keeps.filters
  have done := filters.outcome_filtered p
  have after : (space.filtered grid p).Keeps grid := by
    have kept := keeps.filterCells fun key => .ok (p key)
    rw [done] at kept
    exact kept
  have view := filters.view_filtered p
  have sound := after.view
  rw [view] at sound
  refine ⟨space.partOf grid p, done, after, ?_, ?_, ?_, ?_, ?_, ?_⟩
  · exact Mesh.subMesh_restricted keeps.sound _ p
  · show (space.view grid).SubMesh Cell.vertices p ((space.filtered grid p).view grid)
    rw [view]
    exact Mesh.subMesh_restricted keeps.view _ p
  · intro fill
    show ((space.filtered grid p).view grid).areaVector fill = _
    rw [view]
    exact keeps.view.cellVector_restricted fill Cell.area p sound
  · rw [filters.outcome_filter_filter, filters.outcome_filtered fun key => p key && q key]
  · rw [filters.outcome_filter_filter, filters.outcome_filter_filter]
    simp only [Bool.and_comm]
  · rw [filters.outcome_filter_filter, done]
    simp only [Bool.and_self]

/-- Of two triangles with a common edge the second one is removed, and with it the corner that
the first one does not have. -/
theorem filtering_leaves_one_triangle :
    ∃ space : MeshSpace Rat, space.Keeps ⟨0⟩ ∧
      (space.view ⟨0⟩).cells.keys = [0, 1] ∧ (space.view ⟨0⟩).vertices.keys = [0, 1, 2, 3] ∧
      ∃ after, (filterCells ⟨0⟩ fun key => .ok (key == 0)).outcome space = (.ok (), after) ∧
        (after.view ⟨0⟩).cells.keys = [0] ∧ (after.view ⟨0⟩).vertices.keys = [0, 1, 2] ∧
        (after.view ⟨0⟩).vertices.extent = 4 := by
  have created : Reached (α := Rat) ⟨0⟩ { grids := ⟨#[{}]⟩ } :=
    .created {} (rfl : Mesh.create (.text "") .generic .lonLat .onCells (.text "") = .ok {}) rfl
  have first := created.performed (.addPolygon [(0, 0), (1, 0), (0, 1)] { area := 1 / 2 }) trivial
  have corner := (first.performed (.makeVertex ⟨1, 1, .null⟩) trivial).performed
    (.addVertex ⟨3⟩) (by show _ < _; decide +kernel)
  have second := (corner.performed
    (.makeCell { vertices := [.int 1, .int 3, .int 2], area := 1 / 2 }) trivial).performed
      (.addCell ⟨1⟩) (by show _ < _; decide +kernel)
  have keeps := second.keeps
  obtain ⟨part, done, _, _, subMesh, _⟩ :=
    filtering_leaves_the_subMesh keeps (fun key => key == 0) fun _ => true
  refine ⟨_, keeps, by decide +kernel, by decide +kernel, _, done, ?_, ?_, ?_⟩
  · rw [Table.keys, subMesh.cells.entries]
    decide +kernel
  · rw [Table.keys, subMesh.vertices.entries]
    decide +kernel
  · rw [subMesh.vertices.extent]
    decide +kernel

end MeshSpace

end Regrid
