import Regrid.Proofs.Mesh.PointOrder
import Regrid.Proofs.Shared.Reachable

/-!
Contract: meshes that share vertices and cells with each other.

Owns:
- that operations on one mesh leave the bookkeeping of all others intact, whatever they share, as
  long as the one does not renumber its vertices;
- when renumbering the vertices of a mesh spares another one, and that it does no harm exactly
  then;
- runs of operations on any number of meshes that only renumber where it spares the others.

Does not own: areas, which are those of the mesh that computed them last.

A mesh stores the vertices and cells that it is handed. Indices and references stand in these
records, so renumbering one mesh shows in all meshes that hold the same records.
-/

namespace Regrid.MeshSpace

open Attempt

variable {α : Type} [Scalar α] {grid other : Ref (SharedGrid α)} {space : MeshSpace α}

/-! ### Operations on another mesh -/

/-- The tables and tags of another mesh may change. -/
theorem Keeps.setGrid_other (keeps : space.Keeps other) (different : other ≠ grid)
    (mesh : SharedGrid α) : (space.setGrid grid mesh).Keeps other := by
  have now : (space.setGrid grid mesh).grids.get other = space.grids.get other :=
    Heap.get_set_other different ..
  refine ⟨Heap.holds_set.mpr keeps.placed, ?_, ?_, ?_⟩
  · rw [now]
    exact keeps.verticesHeld
  · rw [now]
    exact keeps.cellsHeld
  · rw [now]
    exact keeps.sound

theorem Keeps.change_other (keeps : space.Keeps other) (different : other ≠ grid)
    (f : SharedGrid α → Except Error (SharedGrid α)) :
    ((MeshSpace.change grid f).outcome space).2.Keeps other := by
  rw [outcome_change]
  cases f (space.grids.get grid) with
  | error reason => exact keeps
  | ok changed => exact keeps.setGrid_other different changed

/-- A vertex may get a label, if it has none or keeps the one it has. -/
theorem Keeps.relabelVertex (keeps : space.Keeps grid) {ref : Ref (Vertex α)} {vertex : Vertex α}
    (labels : ∀ key : Int, (space.vertices.get ref).index = .int key → vertex.index = .int key) :
    (space.setVertex ref vertex).Keeps grid := by
  by_cases inside : ref ∈ (space.grids.get grid).vertices.items
  · obtain ⟨⟨key, _⟩, member, rfl⟩ := List.mem_map.mp inside
    have own := keeps.sound.vertices.indexed key _ member
    exact keeps.setVertex_inside ((labels key own).trans own.symm)
  · exact keeps.setVertex inside vertex

/-- A cell may get a label, if it has none or keeps the one it has. -/
theorem Keeps.relabelCell (keeps : space.Keeps grid) {ref : Ref (Cell α)} {cell : Cell α}
    (labels : ∀ key : Int, (space.cells.get ref).index = .int key → cell.index = .int key)
    (vertices : cell.vertices = (space.cells.get ref).vertices) :
    (space.setCell ref cell).Keeps grid := by
  by_cases inside : ref ∈ (space.grids.get grid).cells.items
  · obtain ⟨⟨key, _⟩, member, rfl⟩ := List.mem_map.mp inside
    have own := keeps.sound.cells.indexed key _ member
    exact keeps.setCell_inside ((labels key own).trans own.symm) vertices
  · exact keeps.setCell inside cell

theorem Keeps.addVertex_other (keeps : space.Keeps other) (different : other ≠ grid)
    (ref : Ref (Vertex α)) : ((MeshSpace.addVertex grid ref).outcome space).2.Keeps other := by
  have label : ∀ key : Int, (space.vertices.get ref).index = .int key →
      (space.labelVertex grid ref).index = .int key := by
    intro key own
    simp only [labelVertex, own, indexOr]
  rw [outcome_addVertex]
  cases placed : placeVertex (space.labelVertex grid ref).index ref (space.grids.get grid) with
  | error reason => exact keeps.relabelVertex label
  | ok result =>
      obtain ⟨index, read, insertion⟩ := bind_eq_ok placed
      obtain ⟨inserted, _, same⟩ := bind_eq_ok insertion
      cases same
      have relabelled : (space.setVertex ref { space.vertices.get ref with
          index := .int index }).Keeps other := by
        refine keeps.relabelVertex fun key own => ?_
        rw [label key own] at read
        cases read
        rfl
      exact relabelled.setGrid_other different inserted

theorem Keeps.addCell_other (keeps : space.Keeps other) (different : other ≠ grid)
    (ref : Ref (Cell α)) : ((MeshSpace.addCell grid ref).outcome space).2.Keeps other := by
  have label : ∀ key : Int, (space.cells.get ref).index = .int key →
      (space.labelCell grid ref).index = .int key := by
    intro key own
    simp only [labelCell, own, indexOr]
  rw [outcome_addCell]
  cases placed : placeCell (space.cells.get ref).vertices (space.labelCell grid ref).index ref
      (space.grids.get grid) with
  | error reason => exact keeps.relabelCell label rfl
  | ok result =>
      obtain ⟨index, read, insertion⟩ := bind_eq_ok placed
      obtain ⟨inserted, _, same⟩ := bind_eq_ok insertion
      cases same
      have relabelled : (space.setCell ref { space.cells.get ref with
          index := .int index }).Keeps other := by
        refine keeps.relabelCell (fun key own => ?_) rfl
        rw [label key own] at read
        cases read
        rfl
      exact relabelled.setGrid_other different inserted

theorem addPolygon_other (different : other ≠ grid) (points : List (α × α)) (cell : Cell α) :
    (addPolygon grid points cell).Preserves (Keeps other) := by
  have addPoint : ∀ point, (addPoint grid point).Preserves (Keeps other) := by
    intro point space keeps
    unfold MeshSpace.addPoint
    rw [outcome_bind, outcome_makeVertex]
    exact holds_bind ((makeVertex_keeps _ keeps).addVertex_other different _) fun _ _ kept => kept
  refine preserves_bind (preserves_mapM addPoint points) fun references => ?_
  intro space keeps
  rw [outcome_bind, outcome_makeCell]
  exact holds_bind ((makeCell_keeps _ keeps).addCell_other different _) fun _ _ kept => kept

/-- Operations on one mesh leave the bookkeeping of another one intact, unless they renumber. -/
theorem Keeps.perform_other (keeps : space.Keeps other) (different : other ≠ grid)
    (operation : Operation α) (stays : operation ≠ .sortRenumber) :
    ((operation.perform grid).outcome space).2.Keeps other := by
  cases operation with
  | makeVertex vertex => exact makeVertex_keeps vertex keeps
  | makeCell cell => exact makeCell_keeps cell keeps
  | addVertex vertex => exact keeps.addVertex_other different vertex
  | addCell cell => exact keeps.addCell_other different cell
  | addPolygon points cell =>
      exact holds_bind (addPolygon_other different points cell space keeps) fun _ _ kept => kept
  | fixExtent kind extent => exact keeps.change_other different _
  | setCoordinates coordinates projection => exact keeps.change_other different _
  | computeAreas => exact computeAreas_preserves space keeps
  | sortRenumber => exact absurd rfl stays
  | filterCells accept =>
      refine holds_bind (keeps.change_other different _) fun _ between kept => ?_
      exact kept.change_other different _
  | clear => exact keeps.change_other different _

/-! ### Renumbering another mesh -/

/-- The point of the vertex that a reference names in a mesh. -/
def pointAt (space : MeshSpace α) (grid : Ref (SharedGrid α)) (reference : Value) :
    Except Error (α × α) := do
  return (← (space.view grid).vertices.getAt reference).point

theorem pointAt_eq (space : MeshSpace α) (grid : Ref (SharedGrid α)) (reference : Value) :
    space.pointAt grid reference = do
      return (space.vertices.get (← (space.grids.get grid).vertices.getAt reference)).point := by
  rw [pointAt, show (space.view grid).vertices =
    (space.grids.get grid).vertices.map space.vertices.get from rfl, Table.getAt_map]
  cases (space.grids.get grid).vertices.getAt reference <;> rfl

theorem polygonAt_view (space : MeshSpace α) (grid : Ref (SharedGrid α)) (key : Int) :
    (space.view grid).polygonAt key = (space.grids.get grid).cells.get key >>= fun cell =>
      (space.cells.get cell).vertices.mapM (space.pointAt grid) := by
  rw [Mesh.polygonAt, show (space.view grid).cells =
    (space.grids.get grid).cells.map space.cells.get from rfl, Table.get_map]
  cases (space.grids.get grid).cells.get key <;> rfl

/-- Every cell of a mesh has corners. -/
theorem Keeps.exists_corners (keeps : space.Keeps grid) {cell : Ref (Cell α)}
    (member : cell ∈ (space.grids.get grid).cells.items) :
    ∃ polygon, (space.cells.get cell).vertices.mapM (space.pointAt grid) = .ok polygon := by
  refine keeps.view.exists_polygon ?_
  rw [show (space.view grid).cells.items = (space.grids.get grid).cells.items.map space.cells.get
    from Table.items_map ..]
  exact List.mem_map_of_mem member

/-- Renumbering the vertices of a mesh spares another one: it gives each vertex that the other one
holds the index that it has, and each cell that the other one holds references to vertices of the
other one at the points of the old references. -/
structure Spares (space : MeshSpace α) (grid other : Ref (SharedGrid α)) : Prop where
  vertices : ∀ entry ∈ numberedVertices (space.grids.get grid) space,
    entry.1 ∈ (space.grids.get other).vertices.items →
      (space.vertices.get entry.1).index = .int entry.2
  cells : ∀ cell ∈ (space.grids.get grid).cells.items,
    cell ∈ (space.grids.get other).cells.items →
      ∀ reference ∈ (space.cells.get cell).vertices,
        renameReference (newNames (space.grids.get grid) space).reverse reference >>=
          space.pointAt other = space.pointAt other reference

/-- Two meshes hold no vertex and no cell in common. -/
structure Apart (space : MeshSpace α) (grid other : Ref (SharedGrid α)) : Prop where
  vertices : (space.grids.get grid).vertices.items.Disjoint
    (space.grids.get other).vertices.items
  cells : (space.grids.get grid).cells.items.Disjoint (space.grids.get other).cells.items

/-- Where nothing is shared, nothing has to be spared. -/
theorem Apart.spares (apart : space.Apart grid other) : space.Spares grid other where
  vertices := fun _ member held =>
    (apart.vertices ((numberedVertices_perm _ space).mem_iff.mp (List.mem_map_of_mem member))
      held).elim
  cells := fun _ member held => (apart.cells member held).elim

/-- A mesh is spared if it holds vertices of the renumbered one only, all of which keep their
indices. -/
theorem spares_of_subset (keeps : space.Keeps grid) (otherKeeps : space.Keeps other)
    (shared : (space.grids.get other).vertices.items ⊆ (space.grids.get grid).vertices.items)
    (stay : ∀ entry ∈ numberedVertices (space.grids.get grid) space,
      ∀ key, (key, entry.1) ∈ (space.grids.get other).vertices.entries → key = entry.2) :
    space.Spares grid other where
  vertices := by
    intro entry member held
    obtain ⟨⟨key, _⟩, otherEntry, rfl⟩ := List.mem_map.mp held
    rw [← stay entry member key otherEntry]
    exact otherKeeps.sound.vertices.indexed _ _ otherEntry
  cells := by
    intro cell member held reference referenceMember
    obtain ⟨key, vertex, number, known, entry, numbered, renamed⟩ := exists_renameReference
      keeps.sound.vertices (keeps.sound.references cell member reference referenceMember)
    obtain ⟨otherKey, used, otherKnown⟩ :=
      otherKeeps.sound.references cell held reference referenceMember
    obtain rfl : otherKey = key :=
      Option.some.inj (Except.ok.inj (otherKnown.symm.trans known))
    obtain ⟨⟨_, otherVertex⟩, otherEntry, rfl⟩ := List.mem_map.mp used
    -- the vertex that the other mesh has under the key has it as its index, so it is the same one
    have same : otherVertex = vertex := by
      obtain ⟨⟨ownKey, _⟩, ownEntry, rfl⟩ := List.mem_map.mp
        (shared (Table.mem_items_of_mem otherEntry))
      have index := otherKeeps.sound.vertices.indexed _ _ otherEntry
      rw [keeps.sound.vertices.indexed _ _ ownEntry] at index
      cases index
      exact Table.eq_of_mem keeps.sound.vertices.distinct ownEntry entry
    subst same
    have distinct := otherKeeps.sound.vertices.distinct
    rw [renamed, ← stay _ numbered _ otherEntry]
    refine (pointAt_eq ..).trans (Eq.trans ?_ (pointAt_eq ..).symm)
    rw [Table.getAt_of_mem distinct otherEntry known,
      Table.getAt_of_mem distinct otherEntry (Value.integerKey?_int _)]

variable {after : MeshSpace α}

theorem Renumbered.grid_other (renumbered : Renumbered grid space after)
    (different : other ≠ grid) : after.grids.get other = space.grids.get other := by
  rw [renumbered.grids]
  exact Heap.get_set_other different ..

/-- Numbers are no points. -/
theorem Renumbered.point (renumbered : Renumbered grid space after) (ref : Ref (Vertex α)) :
    (after.vertices.get ref).point = (space.vertices.get ref).point := by
  by_cases inside : ref ∈ (space.grids.get grid).vertices.items
  · obtain ⟨number, member⟩ := exists_numbered inside space
    rw [renumbered.numbered _ member]
    rfl
  · rw [renumbered.otherVertices ref inside]

theorem Renumbered.pointAt (renumbered : Renumbered grid space after) (different : other ≠ grid) :
    after.pointAt other = space.pointAt other := by
  funext reference
  simp only [pointAt_eq, renumbered.grid_other different, renumbered.point]

/-- A cell keeps its corners in another mesh exactly if its new references lead to the same
points. -/
theorem Renumbered.corners_iff (renumbered : Renumbered grid space after)
    (keeps : space.Keeps other) {cell : Ref (Cell α)}
    (member : cell ∈ (space.grids.get grid).cells.items)
    (held : cell ∈ (space.grids.get other).cells.items) :
    (after.cells.get cell).vertices.mapM (space.pointAt other) =
        (space.cells.get cell).vertices.mapM (space.pointAt other) ↔
      ∀ reference ∈ (space.cells.get cell).vertices,
        renameReference (newNames (space.grids.get grid) space).reverse reference >>=
          space.pointAt other = space.pointAt other reference := by
  obtain ⟨references, read, same⟩ := bind_eq_ok (renumbered.renamed cell member)
  obtain ⟨polygon, drawn⟩ := keeps.exists_corners held
  rw [← Except.ok.inj same, mapM_mapM read]
  exact mapM_eq_mapM_iff drawn

/-- Where it spares another mesh, renumbering leaves its bookkeeping intact. -/
theorem Spares.keeps (spares : space.Spares grid other)
    (renumbered : Renumbered grid space after) (different : other ≠ grid)
    (keeps : space.Keeps other) : after.Keeps other := by
  have now := renumbered.grid_other different
  have vertexIndex : ∀ vertex ∈ (space.grids.get other).vertices.items,
      (after.vertices.get vertex).index = (space.vertices.get vertex).index := by
    intro vertex held
    by_cases inside : vertex ∈ (space.grids.get grid).vertices.items
    · obtain ⟨number, member⟩ := exists_numbered inside space
      rw [renumbered.numbered _ member, spares.vertices _ member held]
    · rw [renumbered.otherVertices vertex inside]
  have cellIndex : ∀ cell, (after.cells.get cell).index = (space.cells.get cell).index := by
    intro cell
    by_cases inside : cell ∈ (space.grids.get grid).cells.items
    · obtain ⟨_, _, same⟩ := bind_eq_ok (renumbered.renamed cell inside)
      rw [← Except.ok.inj same]
    · rw [renumbered.otherCells cell inside]
  have references : ∀ cell ∈ (space.grids.get other).cells.items,
      ∀ reference ∈ (after.cells.get cell).vertices, (space.grids.get other).Names reference := by
    intro cell held reference referenceMember
    by_cases inside : cell ∈ (space.grids.get grid).cells.items
    · have drawn := (renumbered.corners_iff keeps inside held).mpr (spares.cells cell inside held)
      obtain ⟨polygon, before⟩ := keeps.exists_corners held
      obtain ⟨point, _, read⟩ := exists_answer_of_mem
        ((mapM_eq_ok_iff ..).mp (drawn.trans before)) referenceMember
      rw [pointAt_eq] at read
      obtain ⟨vertex, found, _⟩ := bind_eq_ok read
      exact Mesh.names_of_getAt found
    · rw [renumbered.otherCells cell inside] at referenceMember
      exact keeps.sound.references cell held reference referenceMember
  refine ⟨?_, ?_, ?_, ?_⟩
  · rw [renumbered.grids]
    exact Heap.holds_set.mpr keeps.placed
  · rw [now]
    exact fun vertex held => (renumbered.verticesHeld vertex).mpr (keeps.verticesHeld vertex held)
  · rw [now]
    exact fun cell held => (renumbered.cellsHeld cell).mpr (keeps.cellsHeld cell held)
  · rw [now]
    exact ⟨keeps.sound.vertices.congr fun _ vertex member =>
        vertexIndex vertex (Table.mem_items_of_mem member),
      keeps.sound.cells.congr fun _ cell _ => cellIndex cell, references, keeps.sound.projection⟩

/-- Where it spares another mesh, renumbering leaves its polygons as they are. -/
theorem Spares.polygonAt (spares : space.Spares grid other)
    (renumbered : Renumbered grid space after) (different : other ≠ grid)
    (keeps : space.Keeps other) (key : Int) :
    (after.view other).polygonAt key = (space.view other).polygonAt key := by
  rw [polygonAt_view, polygonAt_view, renumbered.grid_other different,
    renumbered.pointAt different]
  cases found : (space.grids.get other).cells.get key with
  | error reason => rfl
  | ok cell =>
      have held := Table.mem_items_of_mem (Table.mem_of_get found)
      by_cases inside : cell ∈ (space.grids.get grid).cells.items
      · exact (renumbered.corners_iff keeps inside held).mpr (spares.cells cell inside held)
      · show (after.cells.get cell).vertices.mapM _ = (space.cells.get cell).vertices.mapM _
        rw [renumbered.otherCells cell inside]

/-- Renumbering spares another mesh exactly if it leaves its bookkeeping intact and its polygons
as they are. -/
theorem Renumbered.spares_iff (renumbered : Renumbered grid space after)
    (different : other ≠ grid) (keeps : space.Keeps other) :
    space.Spares grid other ↔ (after.view other).Sound (.held α) ∧
      ∀ key, (after.view other).polygonAt key = (space.view other).polygonAt key := by
  have now := renumbered.grid_other different
  constructor
  · intro spares
    exact ⟨(spares.keeps renumbered different keeps).view,
      spares.polygonAt renumbered different keeps⟩
  · rintro ⟨sound, polygons⟩
    have bookkeeping : (after.grids.get other).Sound after.reading :=
      (Mesh.sound_map_iff ..).mp sound
    rw [now] at bookkeeping
    refine ⟨fun entry member held => ?_, fun cell member held => ?_⟩
    · obtain ⟨⟨key, vertex⟩, entryMember, same⟩ := List.mem_map.mp held
      obtain rfl : vertex = entry.1 := same
      have before : (space.vertices.get entry.1).index = .int key :=
        keeps.sound.vertices.indexed key _ entryMember
      have afterwards : (after.vertices.get entry.1).index = .int key :=
        bookkeeping.vertices.indexed key _ entryMember
      rw [renumbered.numbered entry member] at afterwards
      exact before.trans afterwards.symm
    · obtain ⟨⟨key, _⟩, entryMember, rfl⟩ := List.mem_map.mp held
      have found := Table.get_of_mem keeps.sound.cells.distinct entryMember
      have drawn := polygons key
      rw [polygonAt_view, polygonAt_view, now, renumbered.pointAt different, found] at drawn
      exact (renumbered.corners_iff keeps member held).mp drawn

/-! ### Runs on several meshes -/

/-- Renumbering the vertices of a mesh spares all other ones. -/
def SparesOthers (space : MeshSpace α) (grid : Ref (SharedGrid α)) : Prop :=
  ∀ other, space.grids.Holds other → other ≠ grid → space.Spares grid other

/-- The spaces that are reached from the empty one by making meshes and by operations on any of
them, refused or not. Vertices are renumbered only where that is allowed. -/
inductive SharedRun (allowed : MeshSpace α → Ref (SharedGrid α) → Prop) : MeshSpace α → Prop where
  | empty : SharedRun allowed {}
  | created {space : MeshSpace α} (run : SharedRun allowed space) {name : Value} {type : GridType}
      {coordinates : Coordinates} {parameterization : Parameterization} {projection : Value}
      {mesh : SharedGrid α}
      (created : Mesh.create name type coordinates parameterization projection = .ok mesh) :
      SharedRun allowed { space with grids := (space.grids.make mesh).2 }
  | performed {space : MeshSpace α} (run : SharedRun allowed space) {grid : Ref (SharedGrid α)}
      (held : space.grids.Holds grid) (operation : Operation α)
      (admissible : operation.Admissible space)
      (permitted : operation = .sortRenumber → allowed space grid) :
      SharedRun allowed ((operation.perform grid).outcome space).2

/-- No operation makes a mesh. -/
theorem Operation.perform_places (grid : Ref (SharedGrid α)) (operation : Operation α)
    (places : Nat) :
    (operation.perform grid).Preserves fun space => space.grids.records.size = places := by
  have written : ∀ (space : MeshSpace α) (mesh : SharedGrid α),
      space.grids.records.size = places →
        (space.setGrid grid mesh).grids.records.size = places := by
    intro space mesh same
    simpa only [setGrid, Heap.set, Array.size_setIfInBounds] using same
  have changes : ∀ f, (change grid f).Preserves fun space : MeshSpace α =>
      space.grids.records.size = places := by
    intro f space same
    rw [outcome_change]
    cases f (space.grids.get grid) with
    | error reason => exact same
    | ok changed => exact written space changed same
  have addsVertex : ∀ ref, (MeshSpace.addVertex grid ref).Preserves fun space : MeshSpace α =>
      space.grids.records.size = places := by
    intro ref space same
    rw [outcome_addVertex]
    split
    · exact written _ _ same
    · exact same
  have addsCell : ∀ ref, (MeshSpace.addCell grid ref).Preserves fun space : MeshSpace α =>
      space.grids.records.size = places := by
    intro ref space same
    rw [outcome_addCell]
    split
    · exact written _ _ same
    · exact same
  cases operation with
  | makeVertex vertex => exact fun _ same => same
  | makeCell cell => exact fun _ same => same
  | addVertex vertex => exact addsVertex vertex
  | addCell cell => exact addsCell cell
  | addPolygon points cell =>
      refine preserves_bind (preserves_bind (preserves_mapM (fun point => ?_) points) fun _ => ?_)
        fun _ => preserves_pure _
      · exact preserves_bind (fun _ same => same) fun ref =>
          preserves_bind (addsVertex ref) fun _ => preserves_bind preserves_get fun _ =>
            preserves_pure _
      · exact preserves_bind (fun _ same => same) fun ref =>
          preserves_bind (addsCell ref) fun _ => preserves_pure _
  | fixExtent kind extent => exact changes _
  | setCoordinates coordinates projection => exact changes _
  | computeAreas =>
      refine preserves_bind preserves_get fun space => preserves_forM _ fun ref _ => ?_
      refine preserves_ofFunction fun between answer changed same done => ?_
      obtain ⟨_, _, last⟩ := bind_eq_ok done
      cases last
      exact same
  | sortRenumber =>
      refine preserves_bind preserves_get fun space => ?_
      refine preserves_bind (preserves_forM _ fun _ _ => preserves_modify fun _ same => same)
        fun _ => ?_
      refine preserves_bind (preserves_modify fun _ same => written _ _ same) fun _ => ?_
      refine preserves_forM _ fun ref _ => ?_
      refine preserves_ofFunction fun between answer changed same done => ?_
      obtain ⟨_, _, last⟩ := bind_eq_ok done
      cases last
      exact same
  | filterCells accept =>
      exact preserves_bind (changes _) fun _ => preserves_bind preserves_get fun _ => changes _
  | clear => exact changes _

theorem Keeps.makeGrid (keeps : space.Keeps grid) (mesh : SharedGrid α) :
    { space with grids := (space.grids.make mesh).2 }.Keeps grid := by
  have now := Heap.get_make_held keeps.placed mesh
  refine ⟨keeps.placed.make mesh, ?_, ?_, ?_⟩
  · rw [now]
    exact keeps.verticesHeld
  · rw [now]
    exact keeps.cellsHeld
  · rw [now]
    exact keeps.sound

/-- All meshes stay intact along a run that renumbers only where it spares the others. -/
theorem SharedRun.keeps (run : SharedRun SparesOthers space) :
    ∀ grid, space.grids.Holds grid → space.Keeps grid := by
  induction run with
  | empty => exact fun grid held => absurd held (Nat.not_lt_zero _)
  | @created space _ _ _ _ _ _ mesh created inductionHypothesis =>
      intro grid held
      by_cases before : space.grids.Holds grid
      · exact (inductionHypothesis grid before).makeGrid mesh
      · have new : grid = (space.grids.make mesh).1 := by
          unfold Heap.Holds at held before
          simp only [Heap.make, Array.size_push] at held ⊢
          obtain ⟨place⟩ := grid
          exact congrArg Ref.mk (by simp only at held before; omega)
        rw [new]
        exact keeps_created space created
  | @performed space _ grid held operation admissible permitted inductionHypothesis =>
      intro other otherHeld
      have size := Operation.perform_places grid operation space.grids.records.size space rfl
      have before : space.grids.Holds other := by
        unfold Heap.Holds at otherHeld ⊢
        rwa [size] at otherHeld
      by_cases own : other = grid
      · subst own
        exact (inductionHypothesis other held).perform operation admissible
      · by_cases renumbers : operation = .sortRenumber
        · subst renumbers
          obtain ⟨after, done, renumbered⟩ := exists_renumbered (inductionHypothesis grid held)
          rw [Operation.perform, done]
          exact (permitted rfl other before own).keeps renumbered own
            (inductionHypothesis other before)
        · exact (inductionHypothesis other before).perform_other own operation renumbers

/-- Meshes may share vertices and cells. As long as vertices are renumbered only where that spares
the other meshes, keys, indices and references of every mesh agree after every run of operations.
Renumbering the vertices of a mesh is never refused, and spares the others exactly if it leaves
their bookkeeping intact and all their polygons as they are. It does so if it shares nothing with
them. -/
theorem shared_meshes_stay_consistent (run : SharedRun SparesOthers space) :
    (∀ grid, space.grids.Holds grid → (space.view grid).Sound (.held α)) ∧
      ∀ grid, space.grids.Holds grid → ∃ after,
        (sortRenumber grid).outcome space = (.ok (), after) ∧
        (space.SparesOthers grid ↔ ∀ other, space.grids.Holds other → other ≠ grid →
          (after.view other).Sound (.held α) ∧
            ∀ key, (after.view other).polygonAt key = (space.view other).polygonAt key) ∧
        ((∀ other, space.grids.Holds other → other ≠ grid → space.Apart grid other) →
          space.SparesOthers grid) := by
  refine ⟨fun grid held => (run.keeps grid held).view, fun grid held => ?_⟩
  obtain ⟨after, done, renumbered⟩ := exists_renumbered (run.keeps grid held)
  refine ⟨after, done, ?_, fun apart other otherHeld different =>
    (apart other otherHeld different).spares⟩
  constructor
  · intro spares other otherHeld different
    exact (renumbered.spares_iff different (run.keeps other otherHeld)).mp
      (spares other otherHeld different)
  · intro harmless other otherHeld different
    exact (renumbered.spares_iff different (run.keeps other otherHeld)).mpr
      (harmless other otherHeld different)

/-- The space after operations on meshes, one after the other. -/
def performAll (steps : List (Ref (SharedGrid Rat) × Operation Rat)) (space : MeshSpace Rat) :
    MeshSpace Rat :=
  steps.foldl (fun space step => ((step.2.perform step.1).outcome space).2) space

/-- Operations are handed meshes and entities that exist, and none of them renumbers. -/
def Ready : List (Ref (SharedGrid Rat) × Operation Rat) → MeshSpace Rat → Prop
  | [], _ => True
  | step :: rest, space => space.grids.Holds step.1 ∧ step.2.Admissible space ∧
      step.2 ≠ .sortRenumber ∧ Ready rest ((step.2.perform step.1).outcome space).2

theorem SharedRun.performAll {allowed : MeshSpace Rat → Ref (SharedGrid Rat) → Prop}
    {steps : List (Ref (SharedGrid Rat) × Operation Rat)} {space : MeshSpace Rat}
    (run : SharedRun allowed space) (ready : Ready steps space) :
    SharedRun allowed (performAll steps space) := by
  induction steps generalizing space with
  | nil => exact run
  | cons step rest inductionHypothesis =>
      obtain ⟨held, admissible, stays, later⟩ := ready
      exact inductionHypothesis (run.performed held step.2 admissible fun same => absurd same stays)
        later

/-- Two empty meshes. -/
def twoMeshes : MeshSpace Rat := { grids := ⟨#[{}, {}]⟩ }

theorem twoMeshes_reached {allowed : MeshSpace Rat → Ref (SharedGrid Rat) → Prop} :
    SharedRun allowed twoMeshes := by
  have created : Mesh.create (.text "") .generic .lonLat .onCells (.text "") =
      .ok ({} : SharedGrid Rat) := rfl
  exact .created (.created .empty created) created

/-- Two meshes share a triangle. The first one has another two vertices, which do not ascend. -/
def sharedTriangle : MeshSpace Rat :=
  performAll [(⟨0⟩, .addPolygon [(0, 0), (0, 1), (1, 0)] { area := 0 }),
    (⟨1⟩, .addVertex ⟨0⟩), (⟨1⟩, .addVertex ⟨1⟩), (⟨1⟩, .addVertex ⟨2⟩), (⟨1⟩, .addCell ⟨0⟩),
    (⟨0⟩, .addPolygon [(3, 0), (2, 0)] { area := 0 })] twoMeshes

theorem sharedTriangle_reached : SharedRun SparesOthers sharedTriangle := by
  refine twoMeshes_reached.performAll ⟨?_, trivial, nofun, ?_, ?_, nofun, ?_, ?_, nofun, ?_, ?_,
    nofun, ?_, ?_, nofun, ?_, trivial, nofun, trivial⟩
  all_goals
    show _ < _
    decide +kernel

theorem sharedTriangle_tables : sharedTriangle.grids.records.size = 2 ∧
    (sharedTriangle.grids.get ⟨0⟩).vertices.items = [⟨0⟩, ⟨1⟩, ⟨2⟩, ⟨3⟩, ⟨4⟩] ∧
    (sharedTriangle.grids.get ⟨1⟩).vertices.entries = [(0, ⟨0⟩), (1, ⟨1⟩), (2, ⟨2⟩)] ∧
    [⟨0⟩, ⟨1⟩, ⟨2⟩, ⟨4⟩, ⟨3⟩].map (fun ref => (sharedTriangle.vertices.get ref).point) =
      [(0, 0), (0, 1), (1, 0), (2, 0), (3, 0)] := by
  decide +kernel

theorem sharedTriangle_holds (place : Nat) :
    sharedTriangle.grids.Holds ⟨place⟩ ↔ place < 2 := by
  rw [Heap.Holds, sharedTriangle_tables.1]

theorem sharedTriangle_numbered :
    numberedVertices (sharedTriangle.grids.get ⟨0⟩) sharedTriangle =
      [(⟨0⟩, 0), (⟨1⟩, 1), (⟨2⟩, 2), (⟨4⟩, 3), (⟨3⟩, 4)] := by
  obtain ⟨_, items, _, points⟩ := sharedTriangle_tables
  rw [numberedVertices, items, PointOrder.sort_eq_of_perm [⟨0⟩, ⟨1⟩, ⟨2⟩, ⟨4⟩, ⟨3⟩]]
  · rfl
  · decide
  · rw [points]
    decide

theorem sharedTriangle_sparesOthers : sharedTriangle.SparesOthers ⟨0⟩ := by
  rintro ⟨place⟩ held different
  have below : place < 2 := (sharedTriangle_holds place).mp held
  obtain rfl : place = 1 := by
    have nonzero : place ≠ 0 := fun zero => different (congrArg Ref.mk zero)
    omega
  obtain ⟨_, items, entries, _⟩ := sharedTriangle_tables
  have keeps := sharedTriangle_reached.keeps
  refine spares_of_subset (keeps ⟨0⟩ ((sharedTriangle_holds 0).mpr (by decide))) (keeps ⟨1⟩ held)
    ?_ ?_
  · rw [items, Table.items, entries]
    simp
  · rw [sharedTriangle_numbered, entries]
    simp

/-- Two vertices of one mesh change places, and the other mesh still has the triangle that it
shares. -/
theorem shared_triangle_stays_consistent : ∃ after,
    (sortRenumber ⟨0⟩).outcome sharedTriangle = (.ok (), after) ∧
      SharedRun SparesOthers after ∧ (after.view ⟨1⟩).Sound (.held Rat) ∧
      ∀ key, (after.view ⟨1⟩).polygonAt key = (sharedTriangle.view ⟨1⟩).polygonAt key := by
  have first : sharedTriangle.grids.Holds ⟨0⟩ := (sharedTriangle_holds 0).mpr (by decide)
  have second : sharedTriangle.grids.Holds ⟨1⟩ := (sharedTriangle_holds 1).mpr (by decide)
  obtain ⟨after, done, exactly, _⟩ :=
    (shared_meshes_stay_consistent sharedTriangle_reached).2 ⟨0⟩ first
  have run := sharedTriangle_reached.performed first .sortRenumber trivial
    fun _ => sharedTriangle_sparesOthers
  rw [Operation.perform, done] at run
  exact ⟨after, done, run, exactly.mp sharedTriangle_sparesOthers ⟨1⟩ second (by decide)⟩

/-- Two meshes share a vertex, which is the first one in both of them by the order of adding. In
the first mesh there is another vertex before it by position. -/
def sharedVertex : MeshSpace Rat :=
  performAll [(⟨0⟩, .makeVertex ⟨1, 0, .null⟩), (⟨0⟩, .addVertex ⟨0⟩),
    (⟨0⟩, .makeVertex ⟨0, 0, .null⟩), (⟨0⟩, .addVertex ⟨1⟩), (⟨1⟩, .addVertex ⟨0⟩)] twoMeshes

theorem sharedVertex_reached {allowed : MeshSpace Rat → Ref (SharedGrid Rat) → Prop} :
    SharedRun allowed sharedVertex := by
  refine twoMeshes_reached.performAll ⟨?_, trivial, nofun, ?_, ?_, nofun, ?_, trivial, nofun, ?_,
    ?_, nofun, ?_, ?_, nofun, trivial⟩
  all_goals
    show _ < _
    decide

/-- After the first mesh renumbered its vertices, the second one has vertex one under key zero. -/
theorem shared_vertex_loses_its_key :
    SharedRun (fun _ _ => True) (performAll [(⟨0⟩, .sortRenumber)] sharedVertex) ∧
      ¬ ((performAll [(⟨0⟩, .sortRenumber)] sharedVertex).view ⟨1⟩).Sound (.held Rat) := by
  have first : sharedVertex.grids.Holds ⟨0⟩ := by decide
  refine ⟨sharedVertex_reached.performed first .sortRenumber trivial fun _ => trivial, ?_⟩
  obtain ⟨after, done, renumbered⟩ := exists_renumbered (sharedVertex_reached.keeps ⟨0⟩ first)
  have reached : performAll [(⟨0⟩, .sortRenumber)] sharedVertex = after := congrArg Prod.snd done
  have numbered : numberedVertices (sharedVertex.grids.get ⟨0⟩) sharedVertex =
      [(⟨1⟩, 0), (⟨0⟩, 1)] := by
    have items : (sharedVertex.grids.get ⟨0⟩).vertices.items = [⟨0⟩, ⟨1⟩] := by decide
    rw [numberedVertices, items, PointOrder.sort_eq_of_perm [⟨1⟩, ⟨0⟩]]
    · rfl
    · decide
    · decide
  have entries : (sharedVertex.grids.get ⟨1⟩).vertices.entries = [(0, ⟨0⟩)] := by decide
  rw [reached]
  intro sound
  have bookkeeping : (after.grids.get ⟨1⟩).Sound after.reading := (Mesh.sound_map_iff ..).mp sound
  rw [renumbered.grid_other (by decide)] at bookkeeping
  have key : (after.vertices.get ⟨0⟩).index = .int 0 :=
    bookkeeping.vertices.indexed 0 ⟨0⟩ (by rw [entries]; exact List.mem_singleton.mpr rfl)
  have number : (after.vertices.get ⟨0⟩).index = .int 1 := by
    rw [renumbered.numbered (⟨0⟩, 1) (by rw [numbered]; simp)]
    rfl
  rw [number] at key
  exact absurd (Value.int.inj key) (by decide)

end Regrid.MeshSpace
