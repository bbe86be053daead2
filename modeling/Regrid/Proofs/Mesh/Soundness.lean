import Regrid.Proofs.Attempt
import Regrid.Proofs.Mesh.Table
import Regrid.Shared.MeshSpace

/-!
Contract: meshes whose tables, references and tags agree with each other.

Owns:
- the invariant of a mesh, for any kind of entries whose index and references can be read;
- one lemma for each operation on a mesh by itself, which says that the invariant stays.

Does not own: entities that several meshes share.
-/

namespace Regrid.Mesh

open Attempt

/-- How the entries of a mesh are read: the own index of a vertex and of a cell, and the
vertices that a cell refers to. -/
structure Reading (ν κ : Type) where
  vertexIndex : ν → Value
  cellIndex : κ → Value
  references : κ → List Value

/-- The reading of a mesh that holds its entities. -/
def Reading.held (α : Type) : Reading (Vertex α) (Cell α) :=
  ⟨Vertex.index, Cell.index, Cell.vertices⟩

variable {ν κ ν' κ' : Type}

/-- A value names a vertex of a mesh: it equals a key in use. -/
def Names (mesh : Mesh ν κ) (reference : Value) : Prop :=
  ∃ key ∈ mesh.vertices.keys, reference.integerKey? = .ok (some key)

/-- Both tables agree with their entries, every reference of a cell names a vertex, and the
projection is present exactly for planar coordinates. -/
structure Sound (reading : Reading ν κ) (mesh : Mesh ν κ) : Prop where
  vertices : mesh.vertices.WellKeyed reading.vertexIndex
  cells : mesh.cells.WellKeyed reading.cellIndex
  references : ∀ cell ∈ mesh.cells.items, ∀ reference ∈ reading.references cell,
    mesh.Names reference
  projection : mesh.coordinates = .xy ↔ mesh.projection.isBlankOption = false

variable {reading : Reading ν κ} {mesh : Mesh ν κ}

/-! ### Names -/

theorem Names.member? {reference : Value} (named : mesh.Names reference) :
    ∃ key ∈ mesh.vertices.keys, mesh.vertices.member? reference = .ok (some key) := by
  obtain ⟨key, used, same⟩ := named
  refine ⟨key, used, ?_⟩
  have asInteger := Table.member?_int mesh.vertices key
  rw [if_pos used] at asInteger
  simpa only [Table.member?, same, Value.integerKey?_int] using asInteger

theorem names_int (mesh : Mesh ν κ) (key : Int) :
    mesh.Names (.int key) ↔ key ∈ mesh.vertices.keys := by
  constructor
  · rintro ⟨other, used, same⟩
    cases same
    exact used
  · intro used
    exact ⟨key, used, rfl⟩

theorem names_of_member? {reference : Value} {key : Int}
    (found : mesh.vertices.member? reference = .ok (some key)) : mesh.Names reference := by
  obtain ⟨same, used⟩ := Table.member?_eq_some found
  exact ⟨key, used, same⟩

theorem names_of_getAt {reference : Value} {vertex : ν}
    (found : mesh.vertices.getAt reference = .ok vertex) : mesh.Names reference := by
  obtain ⟨known, member, _⟩ := bind_eq_ok found
  cases known with
  | none => contradiction
  | some key => exact names_of_member? member

theorem dangling?_eq_none_iff (mesh : Mesh ν κ) (references : List Value) :
    mesh.dangling? references = .ok none ↔ ∀ reference ∈ references, mesh.Names reference := by
  induction references with
  | nil => simp [dangling?]
  | cons reference rest inductionHypothesis =>
      rw [List.forall_mem_cons, ← inductionHypothesis]
      simp only [dangling?, bind, Except.bind]
      cases found : mesh.vertices.member? reference with
      | error reason =>
          simp only [reduceCtorEq, false_iff, not_and]
          intro named
          obtain ⟨key, -, present⟩ := named.member?
          rw [found] at present
          cases present
      | ok known =>
          cases known with
          | none =>
              simp only [pure, Except.pure, Except.ok.injEq, reduceCtorEq, false_iff, not_and]
              intro named
              obtain ⟨key, -, present⟩ := named.member?
              rw [found] at present
              cases present
          | some key => simp [names_of_member? found]

/-- Only a reference that cannot be a key is refused as such. -/
theorem dangling?_eq_error {references : List Value} {reason : Error}
    (refused : mesh.dangling? references = .error reason) : reason = .wrongType := by
  induction references with
  | nil => cases refused
  | cons reference rest inductionHypothesis =>
      simp only [dangling?, Table.member?, Value.integerKey?] at refused
      by_cases isKey : reference.isKey
      · simp only [isKey, if_true, bind, Except.bind, pure, Except.pure] at refused
        cases found : reference.wholeEqual?.filter mesh.vertices.contains with
        | none => simp [found] at refused
        | some key => exact inductionHypothesis (by simpa [found] using refused)
      · simp only [isKey, bind, Except.bind, Bool.false_eq_true, if_false] at refused
        cases refused
        rfl

theorem Names.mono {other : Mesh ν' κ'} {reference : Value} (named : mesh.Names reference)
    (more : mesh.vertices.keys ⊆ other.vertices.keys) : other.Names reference := by
  obtain ⟨key, used, same⟩ := named
  exact ⟨key, more used, same⟩

/-! ### Readings -/

/-- Only what a reading says about the entries of a mesh matters. -/
theorem Sound.congr (sound : mesh.Sound reading) {other : Reading ν κ}
    (vertexIndex : ∀ vertex ∈ mesh.vertices.items,
      other.vertexIndex vertex = reading.vertexIndex vertex)
    (cellIndex : ∀ cell ∈ mesh.cells.items, other.cellIndex cell = reading.cellIndex cell)
    (references : ∀ cell ∈ mesh.cells.items, other.references cell = reading.references cell) :
    mesh.Sound other where
  vertices := sound.vertices.congr fun _ vertex member =>
    vertexIndex vertex (Table.mem_items_of_mem member)
  cells := sound.cells.congr fun _ cell member => cellIndex cell (Table.mem_items_of_mem member)
  references := by
    intro cell member
    rw [references cell member]
    exact sound.references cell member
  projection := sound.projection

/-- A mesh is sound when it is sound with its entries replaced by what they stand for. -/
theorem sound_map_iff (f : ν → ν') (g : κ → κ') (other : Reading ν' κ') :
    (mesh.map f g).Sound other ↔
      mesh.Sound ⟨other.vertexIndex ∘ f, other.cellIndex ∘ g, other.references ∘ g⟩ := by
  have sameKeys : (mesh.map f g).vertices.keys = mesh.vertices.keys := Table.keys_map ..
  have names : ∀ reference, (mesh.map f g).Names reference ↔ mesh.Names reference := by
    intro reference
    simp only [Names, sameKeys]
  have items : (mesh.map f g).cells.items = mesh.cells.items.map g := Table.items_map ..
  constructor
  · intro sound
    refine ⟨(Table.wellKeyed_map_iff f _).mp sound.vertices,
      (Table.wellKeyed_map_iff g _).mp sound.cells, ?_, sound.projection⟩
    intro cell member reference referenceMember
    rw [← names]
    exact sound.references (g cell) (items ▸ List.mem_map_of_mem member) reference referenceMember
  · intro sound
    refine ⟨(Table.wellKeyed_map_iff ..).mpr sound.vertices,
      (Table.wellKeyed_map_iff ..).mpr sound.cells, ?_, sound.projection⟩
    intro cell member reference referenceMember
    rw [items] at member
    obtain ⟨shared, sharedMember, rfl⟩ := List.mem_map.mp member
    rw [names]
    exact sound.references shared sharedMember reference referenceMember

/-! ### Creation, tags and clearing -/

theorem validate_eq_ok_iff (mesh : Mesh ν κ) :
    mesh.validate = .ok () ↔ (mesh.coordinates = .xy ↔ mesh.projection.isBlankOption = false) := by
  unfold validate
  cases mesh.coordinates <;> cases mesh.projection.isBlankOption <;> simp

theorem sound_create {name : Value} {type : GridType} {coordinates : Coordinates}
    {parameterization : Parameterization} {projection : Value}
    (created : create name type coordinates parameterization projection = .ok mesh) :
    mesh.Sound reading := by
  obtain ⟨_, validated, same⟩ := bind_eq_ok created
  cases same
  exact
    { vertices := Table.wellKeyed_empty _
      cells := Table.wellKeyed_empty _
      references := by simp [Table.items]
      projection := (validate_eq_ok_iff _).mp validated }

theorem Sound.setCoordinates (sound : mesh.Sound reading) {coordinates projection : Value}
    {changed : Mesh ν κ} (done : mesh.setCoordinates coordinates projection = .ok changed) :
    changed.Sound reading := by
  obtain ⟨_, _, checked⟩ := bind_eq_ok done
  obtain ⟨_, validated, same⟩ := bind_eq_ok checked
  cases same
  exact { sound with projection := (validate_eq_ok_iff _).mp validated }

theorem tables_setCoordinates {coordinates projection : Value} {changed : Mesh ν κ}
    (done : mesh.setCoordinates coordinates projection = .ok changed) :
    changed.vertices = mesh.vertices ∧ changed.cells = mesh.cells := by
  obtain ⟨_, _, checked⟩ := bind_eq_ok done
  obtain ⟨_, _, same⟩ := bind_eq_ok checked
  cases same
  exact ⟨rfl, rfl⟩

theorem Sound.clear (sound : mesh.Sound reading) : mesh.clear.Sound reading where
  vertices := Table.wellKeyed_empty _
  cells := Table.wellKeyed_empty _
  references := by simp [Mesh.clear, Table.empty, Table.items]
  projection := sound.projection

/-! ### Extents -/

theorem entries_fixExtent {kind : EntityKind} {extent : Int} {fixed : Mesh ν κ}
    (done : mesh.fixExtent kind (.int extent) = .ok fixed) :
    fixed.vertices.entries = mesh.vertices.entries ∧
      fixed.cells.entries = mesh.cells.entries := by
  cases kind <;>
  · obtain ⟨table, tableDone, same⟩ := bind_eq_ok done
    cases same
    simp [Table.entries_fixExtent tableDone]

theorem Sound.fixExtent (sound : mesh.Sound reading) {kind : EntityKind} {extent : Int}
    {fixed : Mesh ν κ} (done : mesh.fixExtent kind (.int extent) = .ok fixed) :
    fixed.Sound reading := by
  cases kind with
  | vertex =>
      obtain ⟨table, tableDone, same⟩ := bind_eq_ok done
      cases same
      have sameEntries := Table.entries_fixExtent tableDone
      exact
        { sound with
          vertices := sound.vertices.fixExtent tableDone
          references := fun cell member reference referenceMember =>
            (sound.references cell member reference referenceMember).mono
              (by simp [Table.keys, sameEntries]) }
  | cell =>
      obtain ⟨table, tableDone, same⟩ := bind_eq_ok done
      cases same
      have sameEntries := Table.entries_fixExtent tableDone
      exact
        { sound with
          cells := sound.cells.fixExtent tableDone
          references := fun cell member =>
            sound.references cell (by simpa only [Table.items, sameEntries] using member) }

theorem Sound.freeze (sound : mesh.Sound reading) : mesh.freeze.Sound reading :=
  { sound with
    vertices := sound.vertices.freeze
    cells := sound.cells.freeze }

theorem Sound.fieldLength_natural (sound : mesh.Sound reading) : 0 ≤ mesh.fieldLength := by
  unfold fieldLength
  cases mesh.parameterization with
  | onVertices => exact sound.vertices.extent_natural
  | onCells => exact sound.cells.extent_natural

/-- The keys in use that a field on the mesh has items for. -/
def dataKeys (mesh : Mesh ν κ) : List Int :=
  match mesh.parameterization with
  | .onVertices => mesh.vertices.keys
  | .onCells => mesh.cells.keys

/-- A field on the mesh has an item for each key in use. -/
theorem Sound.dataKey_bounds (sound : mesh.Sound reading) {key : Int}
    (used : key ∈ mesh.dataKeys) : 0 ≤ key ∧ key < mesh.fieldLength := by
  unfold dataKeys at used
  unfold fieldLength
  cases kind : mesh.parameterization with
  | onVertices =>
      rw [kind] at used
      exact ⟨sound.vertices.natural key used, sound.vertices.lt_extent used⟩
  | onCells =>
      rw [kind] at used
      exact ⟨sound.cells.natural key used, sound.cells.lt_extent used⟩

/-! ### Restriction -/

/-- Restriction keeps the vertices that kept cells refer to, so references stay names. -/
theorem Sound.restrict (sound : mesh.Sound reading) {accept : Int → Except Error Bool}
    {kept : Mesh ν κ} (done : mesh.restrict reading.references accept = .ok kept) :
    kept.Sound reading := by
  obtain ⟨chosen, filtered, same⟩ := bind_eq_ok done
  obtain ⟨options, each, rfl⟩ := (filterMapM_eq_ok_iff ..).mp filtered
  cases same
  refine
    { sound with
      vertices := sound.vertices.restrict _
      cells := sound.cells.restrict _
      references := ?_ }
  intro cell member reference referenceMember
  obtain ⟨⟨key, _⟩, entryMember, rfl⟩ := List.mem_map.mp member
  obtain ⟨inTable, accepted⟩ := List.mem_filter.mp entryMember
  obtain ⟨key', used, known⟩ := sound.references _
    (List.mem_map.mpr ⟨_, inTable, rfl⟩) reference referenceMember
  refine ⟨key', ?_, known⟩
  -- the accepted key belongs to this cell alone, so its references were collected
  obtain ⟨⟨_, names⟩, picked, rfl⟩ := List.mem_map.mp (List.contains_iff_mem.mp accepted)
  obtain ⟨⟨_, other⟩, otherMember, answered⟩ :=
    exists_item_of_mem each (List.reduceOption_mem_iff.mp picked)
  obtain ⟨verdict, _, answered⟩ := bind_eq_ok answered
  cases verdict with
  | false => cases answered
  | true =>
      obtain ⟨collected, read, same⟩ := bind_eq_ok answered
      cases same
      cases Table.eq_of_mem sound.cells.distinct inTable otherMember
      obtain ⟨name, nameMember, nameRead⟩ :=
        exists_answer_of_mem ((mapM_eq_ok_iff ..).mp read) referenceMember
      cases known.symm.trans nameRead
      change key' ∈ (mesh.vertices.restrict _).keys
      rw [Table.keys_restrict, List.mem_filter]
      refine ⟨used, List.contains_iff_mem.mpr (List.mem_flatMap.mpr ⟨_, picked, ?_⟩)⟩
      exact List.mem_filterMap.mpr ⟨some key', nameMember, rfl⟩

/-! ### Insertion -/

theorem Sound.insertVertex (sound : mesh.Sound reading) {index : Int} {vertex : ν}
    (own : reading.vertexIndex vertex = .int index) {inserted : Mesh ν κ}
    (done : mesh.insertVertex index vertex = .ok inserted) : inserted.Sound reading := by
  obtain ⟨_, admitted, same⟩ := bind_eq_ok done
  cases same
  exact
    { sound with
      vertices := sound.vertices.push admitted own
      references := fun cell member reference referenceMember =>
        (sound.references cell member reference referenceMember).mono
          (by simp [Table.keys_push]) }

/-- What it takes to insert a cell, and what comes of it. -/
theorem insertCell_eq_ok_iff (mesh : Mesh ν κ) (references : List Value) (index : Int) (cell : κ)
    (inserted : Mesh ν κ) :
    mesh.insertCell references index cell = .ok inserted ↔
      mesh.cells.checkKey .cell index = .ok () ∧
        (∀ reference ∈ references, mesh.Names reference) ∧
        inserted = { mesh with cells := mesh.cells.push index cell } := by
  rw [← dangling?_eq_none_iff]
  unfold insertCell
  cases mesh.cells.checkKey .cell index with
  | error reason => simp [bind, Except.bind]
  | ok _ =>
      cases mesh.dangling? references with
      | error reason => simp [bind, Except.bind]
      | ok found =>
          cases found with
          | some reference => simp [bind, Except.bind]
          | none => simp [bind, Except.bind, pure, Except.pure, eq_comm]

theorem Sound.insertCell (sound : mesh.Sound reading) {references : List Value} {index : Int}
    {cell : κ} (own : reading.cellIndex cell = .int index)
    (refers : reading.references cell = references) {inserted : Mesh ν κ}
    (done : mesh.insertCell references index cell = .ok inserted) : inserted.Sound reading := by
  obtain ⟨admitted, named, rfl⟩ := (insertCell_eq_ok_iff ..).mp done
  refine { sound with cells := sound.cells.push admitted own, references := ?_ }
  intro other member reference referenceMember
  simp only [Table.items, Table.push, List.map_append, List.mem_append, List.map_cons,
    List.map_nil, List.mem_singleton] at member
  rcases member with earlier | rfl
  · exact sound.references other earlier reference referenceMember
  · exact named reference (refers ▸ referenceMember)

end Regrid.Mesh
