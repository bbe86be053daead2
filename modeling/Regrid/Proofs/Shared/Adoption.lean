import Regrid.Proofs.Shared.SubMesh

/-!
Contract: a mesh that holds its entities is found again behind its reference in a space.

Owns:
- new records for all items of a list;
- what is seen of a mesh after it was given a place in a space.

Does not own: what is done to the mesh later.
-/

namespace Regrid

open Attempt

/-! ### Records for a list -/

namespace Heap

variable {ι : Type} [Inhabited ι]

/-- Records that were there before stay. -/
theorem get_makeAll_held {heap : Heap ι} {ref : Ref ι} (held : heap.Holds ref) (items : List ι) :
    (heap.makeAll items).2.get ref = heap.get ref := by
  induction items generalizing heap with
  | nil => rfl
  | cons item rest inductionHypothesis =>
      exact (inductionHypothesis (held.make item)).trans (get_make_held held item)

/-- Behind the new references there are the items, in their order. -/
theorem map_get_makeAll (heap : Heap ι) (items : List ι) :
    (heap.makeAll items).1.map (heap.makeAll items).2.get = items := by
  induction items generalizing heap with
  | nil => rfl
  | cons item rest inductionHypothesis =>
      show ((heap.make item).2.makeAll rest).2.get (heap.make item).1 ::
        ((heap.make item).2.makeAll rest).1.map ((heap.make item).2.makeAll rest).2.get =
          item :: rest
      rw [inductionHypothesis, get_makeAll_held (holds_make heap item), get_make_new]

end Heap

/-- A table whose entities were replaced by references shows its entities again. -/
theorem Table.map_zip {ι κ : Type} {table : Table ι} {refs : List κ} {f : κ → ι}
    (same : refs.map f = table.items) :
    (Table.mk (table.keys.zip refs) table.top table.fixedExtent).map f = table := by
  have entries : (table.keys.zip refs).map (fun entry => (entry.1, f entry.2)) =
      table.entries := by
    have pairs : (table.keys.zip refs).map (fun entry => (entry.1, f entry.2)) =
        table.keys.zip (refs.map f) := by
      rw [List.zip_map_right]
      rfl
    rw [pairs, same, keys, items, ← List.unzip_fst, ← List.unzip_snd, List.zip_unzip]
  rw [map, entries]

namespace MeshSpace

variable {α : Type} [Scalar α]

/-- The tables of a mesh with new references in place of its entities. -/
def adopted (mesh : Grid α) (space : MeshSpace α) : SharedGrid α where
  name := mesh.name
  type := mesh.type
  coordinates := mesh.coordinates
  parameterization := mesh.parameterization
  projection := mesh.projection
  vertices := ⟨mesh.vertices.keys.zip (space.vertices.makeAll mesh.vertices.items).1,
    mesh.vertices.top, mesh.vertices.fixedExtent⟩
  cells := ⟨mesh.cells.keys.zip (space.cells.makeAll mesh.cells.items).1,
    mesh.cells.top, mesh.cells.fixedExtent⟩

/-- A mesh gets a place of its own, and is seen there as it was. -/
theorem exists_adopted (mesh : Grid α) (space : MeshSpace α) :
    ∃ ref after, (adopt mesh).outcome space = (.ok ref, after) ∧ after.grids.Holds ref ∧
      after.view ref = mesh := by
  have vertices := Table.map_zip (Heap.map_get_makeAll space.vertices mesh.vertices.items)
  have cells := Table.map_zip (Heap.map_get_makeAll space.cells mesh.cells.items)
  let after : MeshSpace α :=
    { vertices := (space.vertices.makeAll mesh.vertices.items).2
      cells := (space.cells.makeAll mesh.cells.items).2
      grids := (space.grids.make (adopted mesh space)).2 }
  refine ⟨(space.grids.make (adopted mesh space)).1, after, rfl, Heap.holds_make .., ?_⟩
  have now : after.grids.get (space.grids.make (adopted mesh space)).1 = adopted mesh space :=
    Heap.get_make_new ..
  rw [view, now]
  show Mesh.mk _ _ _ _ _ (Table.map after.vertices.get _) (Table.map after.cells.get _) = mesh
  simp only [adopted, after, vertices, cells]

/-- A mesh whose snapshot is sound can be filtered. -/
theorem filters_of_view {space : MeshSpace α} {grid : Ref (SharedGrid α)}
    (placed : space.grids.Holds grid) (sound : (space.view grid).Sound (.held α)) :
    space.Filters grid where
  placed := placed
  distinct := by
    have shared := (Mesh.sound_map_iff ..).mp sound
    exact shared.cells.distinct
  known := by
    intro cell member reference referenceMember
    have shared := (Mesh.sound_map_iff ..).mp sound
    obtain ⟨key, _, read⟩ := shared.references cell member reference referenceMember
    exact ⟨some key, read⟩

end MeshSpace

end Regrid
