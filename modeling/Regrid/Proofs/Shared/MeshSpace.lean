import Regrid.Proofs.Mesh.Arrangement
import Regrid.Proofs.Mesh.Soundness
import Regrid.Proofs.Shared.Heap
import Regrid.Shared.MeshSpace

/-!
Contract: operations on a shared mesh leave its bookkeeping intact, also when they are
refused half-way.

Owns:
- the invariant of one mesh in a space, read through the heaps;
- one lemma for each operation, which says that the invariant stays.

Does not own: runs of several operations.
-/

namespace Regrid.MeshSpace

open Attempt

variable {α : Type} [Scalar α]

/-- The entries of shared meshes read through the heaps. -/
def reading (space : MeshSpace α) : Mesh.Reading (Ref (Vertex α)) (Ref (Cell α)) where
  vertexIndex ref := (space.vertices.get ref).index
  cellIndex ref := (space.cells.get ref).index
  references ref := (space.cells.get ref).vertices

/-- The mesh and its entities have records, and the mesh is sound. -/
structure Keeps (grid : Ref (SharedGrid α)) (space : MeshSpace α) : Prop where
  placed : space.grids.Holds grid
  verticesHeld : ∀ vertex ∈ (space.grids.get grid).vertices.items, space.vertices.Holds vertex
  cellsHeld : ∀ cell ∈ (space.grids.get grid).cells.items, space.cells.Holds cell
  sound : (space.grids.get grid).Sound space.reading

variable {grid : Ref (SharedGrid α)} {space : MeshSpace α}

/-- The snapshot of a kept mesh is sound. -/
theorem Keeps.view (keeps : space.Keeps grid) : (space.view grid).Sound (.held α) :=
  (Mesh.sound_map_iff ..).mpr keeps.sound

/-! ### Writing records -/

omit [Scalar α] in
theorem setVertex_setVertex (ref : Ref (Vertex α)) (first second : Vertex α)
    (space : MeshSpace α) :
    (space.setVertex ref first).setVertex ref second = space.setVertex ref second := by
  simp only [setVertex, Heap.set_set]

omit [Scalar α] in
theorem setCell_setCell (ref : Ref (Cell α)) (first second : Cell α) (space : MeshSpace α) :
    (space.setCell ref first).setCell ref second = space.setCell ref second := by
  simp only [setCell, Heap.set_set]

/-- Records of vertices outside the mesh may change. -/
theorem Keeps.setVertex (keeps : space.Keeps grid) {ref : Ref (Vertex α)}
    (outside : ref ∉ (space.grids.get grid).vertices.items) (vertex : Vertex α) :
    (space.setVertex ref vertex).Keeps grid where
  placed := keeps.placed
  verticesHeld := fun other member => Heap.holds_set.mpr (keeps.verticesHeld other member)
  cellsHeld := keeps.cellsHeld
  sound := by
    refine keeps.sound.congr ?_ (fun _ _ => rfl) (fun _ _ => rfl)
    intro other member
    have different : other ≠ ref := fun same => outside (same ▸ member)
    exact congrArg Vertex.index (Heap.get_set_other different space.vertices vertex)

/-- Records of cells outside the mesh may change. -/
theorem Keeps.setCell (keeps : space.Keeps grid) {ref : Ref (Cell α)}
    (outside : ref ∉ (space.grids.get grid).cells.items) (cell : Cell α) :
    (space.setCell ref cell).Keeps grid where
  placed := keeps.placed
  verticesHeld := keeps.verticesHeld
  cellsHeld := fun other member => Heap.holds_set.mpr (keeps.cellsHeld other member)
  sound := by
    have same : ∀ other ∈ (space.grids.get grid).cells.items,
        (space.cells.set ref cell).get other = space.cells.get other := by
      intro other member
      have different : other ≠ ref := fun same => outside (same ▸ member)
      exact Heap.get_set_other different space.cells cell
    exact keeps.sound.congr (fun _ _ => rfl)
      (fun other member => congrArg Cell.index (same other member))
      (fun other member => congrArg Cell.vertices (same other member))

/-- A vertex of the mesh may change in what its table does not depend on. -/
theorem Keeps.setVertex_inside (keeps : space.Keeps grid) {ref : Ref (Vertex α)}
    {vertex : Vertex α} (index : vertex.index = (space.vertices.get ref).index) :
    (space.setVertex ref vertex).Keeps grid where
  placed := keeps.placed
  verticesHeld := fun other member => Heap.holds_set.mpr (keeps.verticesHeld other member)
  cellsHeld := keeps.cellsHeld
  sound := by
    refine keeps.sound.congr (fun other _ => ?_) (fun _ _ => rfl) (fun _ _ => rfl)
    refine Heap.holds_get_set (P := fun record : Vertex α =>
      record.index = (space.vertices.get other).index)
      rfl fun same => ?_
    rw [same, index]

/-- A cell of the mesh may change in what its table does not depend on. -/
theorem Keeps.setCell_inside (keeps : space.Keeps grid) {ref : Ref (Cell α)} {cell : Cell α}
    (index : cell.index = (space.cells.get ref).index)
    (vertices : cell.vertices = (space.cells.get ref).vertices) :
    (space.setCell ref cell).Keeps grid where
  placed := keeps.placed
  verticesHeld := keeps.verticesHeld
  cellsHeld := fun other member => Heap.holds_set.mpr (keeps.cellsHeld other member)
  sound := by
    have same : ∀ other, ((space.cells.set ref cell).get other).index =
        (space.cells.get other).index ∧
          ((space.cells.set ref cell).get other).vertices = (space.cells.get other).vertices :=
      fun other => Heap.holds_get_set (P := fun record : Cell α =>
        record.index = (space.cells.get other).index ∧
          record.vertices = (space.cells.get other).vertices)
        ⟨rfl, rfl⟩ fun own => by rw [own]; exact ⟨index, vertices⟩
    exact keeps.sound.congr (fun _ _ => rfl) (fun other _ => (same other).1)
      (fun other _ => (same other).2)

/-- The tables and tags of the mesh may change to other sound ones. -/
theorem Keeps.setGrid (keeps : space.Keeps grid) {changed : SharedGrid α}
    (verticesHeld : ∀ vertex ∈ changed.vertices.items, space.vertices.Holds vertex)
    (cellsHeld : ∀ cell ∈ changed.cells.items, space.cells.Holds cell)
    (sound : changed.Sound space.reading) : (space.setGrid grid changed).Keeps grid := by
  have now : (space.setGrid grid changed).grids.get grid = changed :=
    Heap.get_set_same keeps.placed changed
  constructor
  · exact Heap.holds_set.mpr keeps.placed
  · rw [now]
    exact verticesHeld
  · rw [now]
    exact cellsHeld
  · rw [now]
    exact sound

omit [Scalar α] in
theorem outcome_makeVertex (vertex : Vertex α) (space : MeshSpace α) :
    (makeVertex vertex).outcome space = (.ok (space.vertices.make vertex).1,
      { space with vertices := (space.vertices.make vertex).2 }) := rfl

omit [Scalar α] in
theorem outcome_makeCell (cell : Cell α) (space : MeshSpace α) :
    (makeCell cell).outcome space = (.ok (space.cells.make cell).1,
      { space with cells := (space.cells.make cell).2 }) := rfl

/-- New records leave every mesh as it is. -/
theorem makeVertex_keeps (vertex : Vertex α) (keeps : space.Keeps grid) :
    { space with vertices := (space.vertices.make vertex).2 }.Keeps grid where
  placed := keeps.placed
  verticesHeld := fun other member => (keeps.verticesHeld other member).make vertex
  cellsHeld := keeps.cellsHeld
  sound := keeps.sound.congr
    (fun other member =>
      congrArg Vertex.index (Heap.get_make_held (keeps.verticesHeld other member) vertex))
    (fun _ _ => rfl) (fun _ _ => rfl)

theorem makeCell_keeps (cell : Cell α) (keeps : space.Keeps grid) :
    { space with cells := (space.cells.make cell).2 }.Keeps grid where
  placed := keeps.placed
  verticesHeld := keeps.verticesHeld
  cellsHeld := fun other member => (keeps.cellsHeld other member).make cell
  sound := by
    have same : ∀ other ∈ (space.grids.get grid).cells.items,
        (space.cells.make cell).2.get other = space.cells.get other := fun other member =>
      Heap.get_make_held (keeps.cellsHeld other member) cell
    exact keeps.sound.congr (fun _ _ => rfl)
      (fun other member => congrArg Cell.index (same other member))
      (fun other member => congrArg Cell.vertices (same other member))

/-! ### Tables and tags -/

omit [Scalar α] in
theorem outcome_change (f : SharedGrid α → Except Error (SharedGrid α)) (space : MeshSpace α) :
    (change grid f).outcome space =
      match f (space.grids.get grid) with
      | .ok changed => (.ok (), space.setGrid grid changed)
      | .error reason => (.error reason, space) := by
  unfold change
  rw [outcome_ofFunction]
  cases f (space.grids.get grid) <;> rfl

/-- A change of tables and tags that leaves a sound mesh, and no entity in it that was not
there before. -/
theorem Keeps.change (keeps : space.Keeps grid) {f : SharedGrid α → Except Error (SharedGrid α)}
    (inside : ∀ changed, f (space.grids.get grid) = .ok changed →
      changed.vertices.items ⊆ (space.grids.get grid).vertices.items ∧
        changed.cells.items ⊆ (space.grids.get grid).cells.items ∧
        changed.Sound space.reading) :
    ((MeshSpace.change grid f).outcome space).2.Keeps grid := by
  rw [outcome_change]
  cases done : f (space.grids.get grid) with
  | error reason => exact keeps
  | ok changed =>
      obtain ⟨vertices, cells, sound⟩ := inside changed done
      exact keeps.setGrid (fun vertex member => keeps.verticesHeld vertex (vertices member))
        (fun cell member => keeps.cellsHeld cell (cells member)) sound

theorem Keeps.setCoordinates (keeps : space.Keeps grid) (coordinates projection : Value) :
    ((MeshSpace.change grid (Mesh.setCoordinates coordinates projection)).outcome space).2.Keeps
      grid := by
  refine keeps.change fun changed done => ?_
  obtain ⟨vertices, cells⟩ := Mesh.tables_setCoordinates done
  exact ⟨by simp [vertices], by simp [cells], keeps.sound.setCoordinates done⟩

theorem Keeps.fixExtent (keeps : space.Keeps grid) (kind : EntityKind) (extent : Int) :
    ((MeshSpace.change grid (Mesh.fixExtent kind (.int extent))).outcome space).2.Keeps grid := by
  refine keeps.change fun changed done => ?_
  obtain ⟨vertices, cells⟩ := Mesh.entries_fixExtent done
  exact ⟨by simp [Table.items, vertices], by simp [Table.items, cells],
    keeps.sound.fixExtent done⟩

theorem Keeps.clear (keeps : space.Keeps grid) :
    ((MeshSpace.change grid fun mesh => .ok mesh.clear).outcome space).2.Keeps grid := by
  refine keeps.change fun changed done => ?_
  cases done
  exact ⟨List.nil_subset _, List.nil_subset _, keeps.sound.clear⟩

/-- Refused or not, the extents are fixed; the cells and vertices that stay were there. -/
theorem Keeps.filterCells (keeps : space.Keeps grid) (accept : Int → Except Error Bool) :
    ((MeshSpace.filterCells grid accept).outcome space).2.Keeps grid := by
  have frozen : (space.setGrid grid (space.grids.get grid).freeze).Keeps grid :=
    keeps.setGrid keeps.verticesHeld keeps.cellsHeld keeps.sound.freeze
  unfold MeshSpace.filterCells
  rw [outcome_bind, outcome_change]
  simp only [outcome_bind, outcome_get]
  refine frozen.change fun changed done => ?_
  refine ⟨?_, ?_, frozen.sound.restrict done⟩ <;>
  · obtain ⟨chosen, _, same⟩ := bind_eq_ok done
    cases same
    exact List.map_subset _ (List.filter_subset_self _)

/-! ### Additions -/

/-- The vertex with the label under which the mesh would insert it. -/
def labelVertex (grid : Ref (SharedGrid α)) (ref : Ref (Vertex α)) (space : MeshSpace α) :
    Vertex α :=
  { space.vertices.get ref with
    index := indexOr (space.grids.get grid).vertices.nextKey (space.vertices.get ref).index }

/-- The cell with the label under which the mesh would insert it. -/
def labelCell (grid : Ref (SharedGrid α)) (ref : Ref (Cell α)) (space : MeshSpace α) : Cell α :=
  { space.cells.get ref with
    index := indexOr (space.grids.get grid).cells.nextKey (space.cells.get ref).index }

/-- The key that a label stands for, and the mesh with a vertex under it. -/
def placeVertex (label : Value) (ref : Ref (Vertex α)) (mesh : SharedGrid α) :
    Except Error (Int × SharedGrid α) := do
  let index ← label.toInteger
  let inserted ← mesh.insertVertex index ref
  return (index, inserted)

/-- The key that a label stands for, and the mesh with a cell under it. -/
def placeCell (references : List Value) (label : Value) (ref : Ref (Cell α))
    (mesh : SharedGrid α) : Except Error (Int × SharedGrid α) := do
  let index ← label.toInteger
  let inserted ← mesh.insertCell references index ref
  return (index, inserted)

theorem outcome_addVertex (ref : Ref (Vertex α)) (space : MeshSpace α) :
    (addVertex grid ref).outcome space =
      match placeVertex (space.labelVertex grid ref).index ref (space.grids.get grid) with
      | .ok (index, inserted) =>
          (.ok (), (space.setVertex ref { space.vertices.get ref with
            index := .int index }).setGrid grid inserted)
      | .error reason => (.error reason, space.setVertex ref (space.labelVertex grid ref)) := by
  unfold addVertex placeVertex
  simp only [outcome_bind, outcome_get, outcome_set, outcome_lift, outcome_modify, labelVertex]
  generalize indexOr (space.grids.get grid).vertices.nextKey (space.vertices.get ref).index = label
  cases label.toInteger with
  | error reason => rfl
  | ok index =>
      simp only [bind, Except.bind]
      cases (space.grids.get grid).insertVertex index ref with
      | error reason => rfl
      | ok inserted => simp only [pure, Except.pure, setVertex_setVertex]

theorem outcome_addCell (ref : Ref (Cell α)) (space : MeshSpace α) :
    (addCell grid ref).outcome space =
      match placeCell (space.cells.get ref).vertices (space.labelCell grid ref).index ref
          (space.grids.get grid) with
      | .ok (index, inserted) =>
          (.ok (), (space.setCell ref { space.cells.get ref with
            index := .int index }).setGrid grid inserted)
      | .error reason => (.error reason, space.setCell ref (space.labelCell grid ref)) := by
  unfold addCell placeCell
  simp only [outcome_bind, outcome_get, outcome_set, outcome_lift, outcome_modify, labelCell]
  generalize indexOr (space.grids.get grid).cells.nextKey (space.cells.get ref).index = label
  cases label.toInteger with
  | error reason => rfl
  | ok index =>
      simp only [bind, Except.bind]
      cases (space.grids.get grid).insertCell (space.cells.get ref).vertices index ref with
      | error reason => rfl
      | ok inserted => simp only [pure, Except.pure, setCell_setCell]

/-- A vertex that is in the mesh is labelled with its key already, and is refused. -/
theorem Keeps.addVertex_known (keeps : space.Keeps grid) {ref : Ref (Vertex α)}
    (inside : ref ∈ (space.grids.get grid).vertices.items) :
    ((addVertex grid ref).outcome space).2 = space := by
  obtain ⟨⟨key, vertex⟩, member, rfl⟩ := List.mem_map.mp inside
  have own : (space.vertices.get vertex).index = .int key := keeps.sound.vertices.indexed _ _ member
  have label : space.labelVertex grid vertex = space.vertices.get vertex := by
    unfold labelVertex
    rw [own, indexOr, ← own]
    exact nofun
  rw [outcome_addVertex, label, own]
  cases placed : placeVertex (.int key) vertex (space.grids.get grid) with
  | error reason => simp only [MeshSpace.setVertex, Heap.set_get]
  | ok result =>
      obtain ⟨_, same, insertion⟩ := bind_eq_ok placed
      cases same
      obtain ⟨_, insertedDone, _⟩ := bind_eq_ok insertion
      obtain ⟨_, admitted, _⟩ := bind_eq_ok insertedDone
      have new := ((Table.checkKey_eq_ok_iff ..).mp admitted).2.2
      exact absurd (Table.mem_keys_of_mem member) new

theorem Keeps.insertVertex (keeps : space.Keeps grid) {ref : Ref (Vertex α)}
    (held : space.vertices.Holds ref) {index : Int}
    (own : (space.vertices.get ref).index = .int index) {inserted : SharedGrid α}
    (done : (space.grids.get grid).insertVertex index ref = .ok inserted) :
    (space.setGrid grid inserted).Keeps grid := by
  have sound : inserted.Sound space.reading := keeps.sound.insertVertex own done
  obtain ⟨_, _, same⟩ := bind_eq_ok done
  cases same
  refine keeps.setGrid ?_ keeps.cellsHeld sound
  intro vertex member
  rw [Table.items_push, List.mem_append, List.mem_singleton] at member
  rcases member with earlier | rfl
  · exact keeps.verticesHeld vertex earlier
  · exact held

theorem Keeps.addVertex (keeps : space.Keeps grid) {ref : Ref (Vertex α)}
    (held : space.vertices.Holds ref) :
    ((MeshSpace.addVertex grid ref).outcome space).2.Keeps grid := by
  by_cases inside : ref ∈ (space.grids.get grid).vertices.items
  · rw [keeps.addVertex_known inside]
    exact keeps
  rw [outcome_addVertex]
  cases placed : placeVertex _ ref (space.grids.get grid) with
  | error reason => exact keeps.setVertex inside _
  | ok result =>
      obtain ⟨index, _, insertion⟩ := bind_eq_ok placed
      obtain ⟨inserted, done, same⟩ := bind_eq_ok insertion
      cases same
      refine (keeps.setVertex inside _).insertVertex (Heap.holds_set.mpr held) ?_ done
      exact congrArg Vertex.index (Heap.get_set_same held _)

/-- A cell that is in the mesh is labelled with its key already, and is refused. -/
theorem Keeps.addCell_known (keeps : space.Keeps grid) {ref : Ref (Cell α)}
    (inside : ref ∈ (space.grids.get grid).cells.items) :
    ((addCell grid ref).outcome space).2 = space := by
  obtain ⟨⟨key, cell⟩, member, rfl⟩ := List.mem_map.mp inside
  have own : (space.cells.get cell).index = .int key := keeps.sound.cells.indexed _ _ member
  have label : space.labelCell grid cell = space.cells.get cell := by
    unfold labelCell
    rw [own, indexOr, ← own]
    exact nofun
  rw [outcome_addCell, label, own]
  cases placed : placeCell _ (.int key) cell (space.grids.get grid) with
  | error reason => simp only [MeshSpace.setCell, Heap.set_get]
  | ok result =>
      obtain ⟨_, same, insertion⟩ := bind_eq_ok placed
      cases same
      obtain ⟨_, done, _⟩ := bind_eq_ok insertion
      obtain ⟨admitted, _⟩ := (Mesh.insertCell_eq_ok_iff ..).mp done
      have new := ((Table.checkKey_eq_ok_iff ..).mp admitted).2.2
      exact absurd (Table.mem_keys_of_mem member) new

theorem Keeps.insertCell (keeps : space.Keeps grid) {ref : Ref (Cell α)}
    (held : space.cells.Holds ref) {index : Int}
    (own : (space.cells.get ref).index = .int index) {inserted : SharedGrid α}
    (done : (space.grids.get grid).insertCell (space.cells.get ref).vertices index ref =
      .ok inserted) : (space.setGrid grid inserted).Keeps grid := by
  have sound : inserted.Sound space.reading := keeps.sound.insertCell own rfl done
  obtain ⟨_, _, rfl⟩ := (Mesh.insertCell_eq_ok_iff ..).mp done
  refine keeps.setGrid keeps.verticesHeld ?_ sound
  intro cell member
  rw [Table.items_push, List.mem_append, List.mem_singleton] at member
  rcases member with earlier | rfl
  · exact keeps.cellsHeld cell earlier
  · exact held

theorem Keeps.addCell (keeps : space.Keeps grid) {ref : Ref (Cell α)}
    (held : space.cells.Holds ref) : ((MeshSpace.addCell grid ref).outcome space).2.Keeps grid := by
  by_cases inside : ref ∈ (space.grids.get grid).cells.items
  · rw [keeps.addCell_known inside]
    exact keeps
  rw [outcome_addCell]
  cases placed : placeCell _ _ ref (space.grids.get grid) with
  | error reason => exact keeps.setCell inside _
  | ok result =>
      obtain ⟨index, _, insertion⟩ := bind_eq_ok placed
      obtain ⟨inserted, done, same⟩ := bind_eq_ok insertion
      cases same
      have now : (space.setCell ref _).cells.get ref = _ := Heap.get_set_same held
        { space.cells.get ref with index := .int index }
      refine (keeps.setCell inside _).insertCell (Heap.holds_set.mpr held)
        (congrArg Cell.index now) ?_
      rw [now]
      exact done

theorem addPoint_preserves (point : α × α) : (addPoint grid point).Preserves (Keeps grid) := by
  intro space keeps
  have made := makeVertex_keeps ⟨point.1, point.2, .null⟩ keeps
  have added := made.addVertex (Heap.holds_make space.vertices ⟨point.1, point.2, .null⟩)
  unfold addPoint
  rw [outcome_bind, outcome_makeVertex]
  exact holds_bind added fun _ _ kept => kept

theorem addPolygon_preserves (points : List (α × α)) (cell : Cell α) :
    (addPolygon grid points cell).Preserves (Keeps grid) := by
  refine preserves_bind (preserves_mapM addPoint_preserves points) fun references => ?_
  intro space keeps
  rw [outcome_bind, outcome_makeCell]
  have made := makeCell_keeps { cell with vertices := references } keeps
  have added := made.addCell (Heap.holds_make space.cells { cell with vertices := references })
  exact holds_bind added fun _ _ kept => kept

/-! ### Indices that are left to the mesh -/

/-- A refusal because an index is in use already. -/
def IsRepetition (reason : Error) : Prop := ∃ kind key, reason = .repeatedIndex kind key

theorem addVertex_avoids_repetition (keeps : space.Keeps grid) {ref : Ref (Vertex α)}
    (unset : (space.vertices.get ref).index = .null) {reason : Error}
    (refused : ((addVertex grid ref).outcome space).1 = .error reason) :
    ¬ IsRepetition reason := by
  rintro ⟨kind, key, rfl⟩
  have label : (space.labelVertex grid ref).index =
      .int (space.grids.get grid).vertices.nextKey := by
    simp only [labelVertex, unset, indexOr]
  rw [outcome_addVertex, label] at refused
  simp only [placeVertex, Value.toInteger_int, Mesh.insertVertex, bind, Except.bind, pure,
    Except.pure] at refused
  have new := Table.checkKey_nextKey_ne_repeated keeps.sound.vertices .vertex kind key
  cases checked : (space.grids.get grid).vertices.checkKey .vertex
      (space.grids.get grid).vertices.nextKey with
  | error other =>
      simp only [checked, Except.error.injEq] at refused
      exact new (refused ▸ checked)
  | ok _ => simp [checked] at refused

theorem addCell_avoids_repetition (keeps : space.Keeps grid) {ref : Ref (Cell α)}
    (unset : (space.cells.get ref).index = .null) {reason : Error}
    (refused : ((addCell grid ref).outcome space).1 = .error reason) :
    ¬ IsRepetition reason := by
  have label : (space.labelCell grid ref).index = .int (space.grids.get grid).cells.nextKey := by
    simp only [labelCell, unset, indexOr]
  rw [outcome_addCell, label] at refused
  simp only [placeCell, Value.toInteger_int, Mesh.insertCell, bind, Except.bind, pure,
    Except.pure] at refused
  cases checked : (space.grids.get grid).cells.checkKey .cell
      (space.grids.get grid).cells.nextKey with
  | error other =>
      simp only [checked, Except.error.injEq] at refused
      rintro ⟨kind, key, rfl⟩
      exact Table.checkKey_nextKey_ne_repeated keeps.sound.cells .cell kind key (refused ▸ checked)
  | ok _ =>
      cases found : (space.grids.get grid).dangling? (space.cells.get ref).vertices with
      | error other =>
          simp only [checked, found, Except.error.injEq] at refused
          rintro ⟨kind, key, rfl⟩
          cases refused.symm.trans (Mesh.dangling?_eq_error found)
      | ok known =>
          cases known with
          | none => simp [checked, found] at refused
          | some reference =>
              simp only [checked, found, Except.error.injEq] at refused
              rintro ⟨kind, key, rfl⟩
              cases refused

theorem addPoint_avoids (point : α × α) :
    (addPoint grid point).Avoids (Keeps grid) IsRepetition := by
  intro space keeps reason refused
  have made := makeVertex_keeps ⟨point.1, point.2, .null⟩ keeps
  have unset := congrArg Vertex.index
    (Heap.get_make_new space.vertices ⟨point.1, point.2, .null⟩)
  unfold addPoint at refused
  rw [outcome_bind, outcome_makeVertex] at refused
  rcases refused_bind refused with early | ⟨_, _, _, late⟩
  · exact addVertex_avoids_repetition made unset early
  · cases late

/-- A polygon whose cell has no index yet. -/
theorem addPolygon_avoids (points : List (α × α)) {cell : Cell α} (unset : cell.index = .null) :
    (addPolygon grid points cell).Avoids (Keeps grid) IsRepetition := by
  refine avoids_bind (preserves_mapM addPoint_preserves points)
    (avoids_mapM addPoint_preserves addPoint_avoids points) fun references => ?_
  intro space keeps reason refused
  have made := makeCell_keeps { cell with vertices := references } keeps
  have blank := (congrArg Cell.index
    (Heap.get_make_new space.cells { cell with vertices := references })).trans unset
  rw [outcome_bind, outcome_makeCell] at refused
  rcases refused_bind refused with early | ⟨_, _, _, late⟩
  · exact addCell_avoids_repetition made blank early
  · cases late

/-! ### Areas -/

/-- Areas are set in the cells of one mesh, and matter to the bookkeeping of none. -/
theorem computeAreas_preserves {other : Ref (SharedGrid α)} :
    (computeAreas grid).Preserves (Keeps other) := by
  refine preserves_bind (fun _ keeps => keeps) fun space => preserves_forM _ fun ref _ => ?_
  intro between keeps
  unfold computeArea
  rw [outcome_ofFunction]
  simp only [bind, Except.bind]
  cases (space.view grid).polygonArea (between.cells.get ref) with
  | error reason => exact keeps
  | ok area => exact keeps.setCell_inside rfl rfl

end Regrid.MeshSpace
