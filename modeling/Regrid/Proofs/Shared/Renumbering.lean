import Regrid.Proofs.Shared.MeshSpace

/-!
Contract: numbering the vertices of a mesh by their points renames every reference to them.

Owns:
- what numbering vertices and renaming references write, and what they leave;
- the renumbering of a mesh as a whole, which is never refused.

Does not own: the order of points.
-/

namespace Regrid.MeshSpace

open Attempt

variable {α : Type} [Scalar α]

/-! ### Numbering -/

/-- The given vertices have the given numbers as their indices, and nothing else differs. -/
structure NumbersVertices (entries : List (Ref (Vertex α) × Nat)) (before after : MeshSpace α) :
    Prop where
  cells : after.cells = before.cells
  grids : after.grids = before.grids
  held : ∀ ref, after.vertices.Holds ref ↔ before.vertices.Holds ref
  numbered : ∀ entry ∈ entries, after.vertices.get entry.1 =
    { before.vertices.get entry.1 with index := .int entry.2 }
  others : ∀ ref ∉ entries.map (·.1), after.vertices.get ref = before.vertices.get ref

def numberVertex (entry : Ref (Vertex α) × Nat) (space : MeshSpace α) : MeshSpace α :=
  space.setVertex entry.1 { space.vertices.get entry.1 with index := .int entry.2 }

theorem numbersVertices_foldl (entries : List (Ref (Vertex α) × Nat)) (space : MeshSpace α)
    (distinct : (entries.map (·.1)).Nodup)
    (held : ∀ entry ∈ entries, space.vertices.Holds entry.1) :
    NumbersVertices entries space
      (entries.foldl (fun between entry => numberVertex entry between) space) := by
  induction entries generalizing space with
  | nil => exact ⟨rfl, rfl, fun _ => Iff.rfl, by simp, fun _ _ => rfl⟩
  | cons entry rest inductionHypothesis =>
      obtain ⟨new, restDistinct⟩ := List.nodup_cons.mp distinct
      have later := inductionHypothesis (numberVertex entry space) restDistinct
        fun other member => Heap.holds_set.mpr (held other (by simp [member]))
      refine ⟨later.cells, later.grids, fun ref => (later.held ref).trans Heap.holds_set, ?_, ?_⟩
      · intro other member
        rcases List.mem_cons.mp member with rfl | member
        · rw [List.foldl_cons, later.others _ new]
          exact Heap.get_set_same (held other (by simp)) _
        · rw [List.foldl_cons, later.numbered other member]
          have different : other.1 ≠ entry.1 := by
            intro same
            exact new (List.mem_map.mpr ⟨other, member, same⟩)
          simp only [numberVertex, setVertex, Heap.get_set_other different]
      · intro ref outside
        simp only [List.map_cons, List.mem_cons, not_or] at outside
        rw [List.foldl_cons, later.others ref outside.2]
        exact Heap.get_set_other outside.1 _ _

/-! ### Renaming -/

def renameReference (names : List (Int × Int)) (reference : Value) : Except Error Value := do
  match (← reference.integerKey?).bind (List.lookup · names) with
  | some name => return .int name
  | none => throw (.keyAbsent reference.shown)

/-- The cell with new names for its references. -/
def renameCell (names : List (Int × Int)) (cell : Cell α) : Except Error (Cell α) := do
  return { cell with vertices := ← cell.vertices.mapM (renameReference names) }

/-- The given cells refer by new names, and nothing else differs. -/
structure RenamesCells (names : List (Int × Int)) (cells : List (Ref (Cell α)))
    (before after : MeshSpace α) : Prop where
  vertices : after.vertices = before.vertices
  grids : after.grids = before.grids
  held : ∀ ref, after.cells.Holds ref ↔ before.cells.Holds ref
  renamed : ∀ ref ∈ cells, renameCell names (before.cells.get ref) = .ok (after.cells.get ref)
  others : ∀ ref ∉ cells, after.cells.get ref = before.cells.get ref

theorem outcome_renameReferences {names : List (Int × Int)} {ref : Ref (Cell α)}
    {space : MeshSpace α} {cell : Cell α}
    (renamed : renameCell names (space.cells.get ref) = .ok cell) :
    (renameReferences names ref).outcome space = (.ok (), space.setCell ref cell) := by
  obtain ⟨vertices, read, same⟩ := bind_eq_ok renamed
  cases same
  change (ofFunction fun space : MeshSpace α => do
    let cell := space.cells.get ref
    return ((), space.setCell ref
      { cell with vertices := ← cell.vertices.mapM (renameReference names) })).outcome space = _
  rw [outcome_ofFunction]
  simp only [read, bind, Except.bind, pure, Except.pure]

/-- Where every reference has a new name, no cell is refused. -/
theorem renamesCells_forM (names : List (Int × Int)) (cells : List (Ref (Cell α)))
    (space : MeshSpace α) (distinct : cells.Nodup) (held : ∀ ref ∈ cells, space.cells.Holds ref)
    (known : ∀ ref ∈ cells, ∃ cell, renameCell names (space.cells.get ref) = .ok cell) :
    ∃ after, (cells.forM (renameReferences names)).outcome space = (.ok (), after) ∧
      RenamesCells names cells space after := by
  induction cells generalizing space with
  | nil => exact ⟨space, rfl, rfl, rfl, fun _ => Iff.rfl, by simp, fun _ _ => rfl⟩
  | cons ref rest inductionHypothesis =>
      obtain ⟨new, restDistinct⟩ := List.nodup_cons.mp distinct
      obtain ⟨cell, renamed⟩ := known ref (by simp)
      have different : ∀ other ∈ rest, other ≠ ref := fun other member same => new (same ▸ member)
      have same : ∀ other ∈ rest,
          (space.setCell ref cell).cells.get other = space.cells.get other :=
        fun other member => Heap.get_set_other (different other member) _ _
      obtain ⟨after, done, later⟩ := inductionHypothesis (space.setCell ref cell) restDistinct
        (fun other member => Heap.holds_set.mpr (held other (by simp [member])))
        (fun other member => by rw [same other member]; exact known other (by simp [member]))
      refine ⟨after, ?_, later.vertices, later.grids,
        fun other => (later.held other).trans Heap.holds_set, ?_, ?_⟩
      · change outcome (renameReferences names ref >>= fun _ => rest.forM _) space = _
        rw [outcome_bind, outcome_renameReferences renamed]
        exact done
      · intro other member
        rcases List.mem_cons.mp member with rfl | member
        · rw [later.others _ new, renamed]
          exact congrArg Except.ok (Heap.get_set_same (held other (by simp)) cell).symm
        · rw [← same other member]
          exact later.renamed other member
      · intro other outside
        simp only [List.mem_cons, not_or] at outside
        rw [later.others other outside.2]
        exact Heap.get_set_other outside.1 _ _

/-! ### The mesh as a whole -/

theorem outcome_forM_numberVertex (entries : List (Ref (Vertex α) × Nat)) (space : MeshSpace α) :
    outcome (entries.forM fun (ref, number) => modify fun between : MeshSpace α =>
      between.setVertex ref { between.vertices.get ref with index := .int number }) space =
        (.ok ⟨⟩, entries.foldl (fun between entry => numberVertex entry between) space) := by
  induction entries generalizing space with
  | nil => rfl
  | cons entry rest inductionHypothesis =>
      exact inductionHypothesis (numberVertex entry space)

/-- The vertices in the order of their points, each with its place in the order. -/
def numberedVertices (mesh : SharedGrid α) (space : MeshSpace α) : List (Ref (Vertex α) × Nat) :=
  (PointOrder.sort (fun ref => (space.vertices.get ref).point) mesh.vertices.items).zipIdx

/-- The pairs of an index in use and the number that takes its place. -/
def newNames (mesh : SharedGrid α) (space : MeshSpace α) : List (Int × Int) :=
  (numberedVertices mesh space).filterMap fun (ref, number) =>
    (space.vertices.get ref).index.wholeEqual?.map fun index => (index, (number : Int))

/-- The table of the vertices under their numbers. -/
def numberedTable (mesh : SharedGrid α) (space : MeshSpace α) : Table (Ref (Vertex α)) where
  entries := (numberedVertices mesh space).map fun (ref, number) => ((number : Int), ref)
  top := ((PointOrder.sort (fun ref => (space.vertices.get ref).point)
    mesh.vertices.items).length : Int) - 1
  fixedExtent := mesh.vertices.fixedExtent

theorem outcome_sortRenumber (space : MeshSpace α) (grid : Ref (SharedGrid α)) :
    (sortRenumber grid).outcome space =
      ((space.grids.get grid).cells.items.forM
        (renameReferences (newNames (space.grids.get grid) space).reverse)).outcome
        (((numberedVertices (space.grids.get grid) space).foldl
          (fun between entry => numberVertex entry between) space).setGrid grid
          { space.grids.get grid with
            vertices := numberedTable (space.grids.get grid) space }) := by
  unfold sortRenumber
  rw [outcome_bind, outcome_get]
  simp only []
  rw [outcome_bind]
  have numbering := outcome_forM_numberVertex (numberedVertices (space.grids.get grid) space) space
  unfold numberedVertices at numbering
  rw [numbering]
  rfl

variable {grid : Ref (SharedGrid α)} {space : MeshSpace α}

theorem numberedVertices_perm (mesh : SharedGrid α) (space : MeshSpace α) :
    ((numberedVertices mesh space).map (·.1)).Perm mesh.vertices.items := by
  unfold numberedVertices
  rw [List.zipIdx_map_fst]
  exact PointOrder.sort_perm _ _

theorem exists_numbered {mesh : SharedGrid α} {ref : Ref (Vertex α)}
    (member : ref ∈ mesh.vertices.items) (space : MeshSpace α) :
    ∃ number, (ref, number) ∈ numberedVertices mesh space := by
  obtain ⟨⟨_, number⟩, numbered, rfl⟩ :=
    List.mem_map.mp ((numberedVertices_perm mesh space).mem_iff.mpr member)
  exact ⟨number, numbered⟩

/-- The new name of a key is the number of its vertex. -/
theorem exists_lookup_newNames {mesh : SharedGrid α}
    (wellKeyed : mesh.vertices.WellKeyed space.reading.vertexIndex) {key : Int}
    {ref : Ref (Vertex α)} (member : (key, ref) ∈ mesh.vertices.entries) :
    ∃ number, (ref, number) ∈ numberedVertices mesh space ∧
      List.lookup key (newNames mesh space).reverse = some (number : Int) := by
  have own : (space.vertices.get ref).index = .int key := wellKeyed.indexed _ _ member
  obtain ⟨number, numbered⟩ := exists_numbered (Table.mem_items_of_mem member) space
  have named : (key, (number : Int)) ∈ newNames mesh space :=
    List.mem_filterMap.mpr ⟨_, numbered, by simp only [own]; rfl⟩
  have found : (List.lookup key (newNames mesh space).reverse).isSome :=
    List.lookup_isSome_iff.mpr ⟨_, List.mem_reverse.mpr named, beq_self_eq_true _⟩
  obtain ⟨name, looked⟩ := Option.isSome_iff_exists.mp found
  obtain ⟨before, after, split, _⟩ := List.lookup_eq_some_iff.mp looked
  have nameMember : (key, name) ∈ newNames mesh space :=
    List.mem_reverse.mp (by rw [split]; exact List.mem_append_right _ (List.mem_cons_self ..))
  obtain ⟨⟨other, place⟩, otherMember, same⟩ := List.mem_filterMap.mp nameMember
  have held : other ∈ mesh.vertices.items :=
    (numberedVertices_perm mesh space).mem_iff.mp (List.mem_map_of_mem otherMember)
  obtain ⟨⟨otherKey, _⟩, otherEntry, rfl⟩ := List.mem_map.mp held
  have otherOwn : (space.vertices.get _).index = .int otherKey := wellKeyed.indexed _ _ otherEntry
  simp only [otherOwn, Value.wholeEqual?_int, Option.map_some, Option.some.injEq,
    Prod.mk.injEq] at same
  obtain ⟨rfl, rfl⟩ := same
  obtain rfl := Table.eq_of_mem wellKeyed.distinct member otherEntry
  exact ⟨place, otherMember, looked⟩

/-- A reference to a vertex gets the number of the vertex. -/
theorem exists_renameReference {mesh : SharedGrid α}
    (wellKeyed : mesh.vertices.WellKeyed space.reading.vertexIndex) {reference : Value}
    (named : mesh.Names reference) : ∃ key ref number, reference.integerKey? = .ok (some key) ∧
      (key, ref) ∈ mesh.vertices.entries ∧ (ref, number) ∈ numberedVertices mesh space ∧
      renameReference (newNames mesh space).reverse reference = .ok (.int (number : Int)) := by
  obtain ⟨key, used, known⟩ := named
  obtain ⟨⟨_, ref⟩, member, rfl⟩ := List.mem_map.mp used
  obtain ⟨number, numbered, looked⟩ := exists_lookup_newNames wellKeyed member
  refine ⟨_, ref, number, known, member, numbered, ?_⟩
  simp [renameReference, known, bind, Except.bind, looked, pure, Except.pure]

theorem exists_renameCell {mesh : SharedGrid α} (sound : mesh.Sound space.reading)
    {ref : Ref (Cell α)} (member : ref ∈ mesh.cells.items) :
    ∃ cell, renameCell (newNames mesh space).reverse (space.cells.get ref) = .ok cell := by
  have each : ∀ reference ∈ (space.cells.get ref).vertices, ∃ renamed,
      renameReference (newNames mesh space).reverse reference = .ok renamed := by
    intro reference referenceMember
    obtain ⟨_, _, _, _, _, _, renamed⟩ := exists_renameReference sound.vertices
      (sound.references ref member reference referenceMember)
    exact ⟨_, renamed⟩
  obtain ⟨references, read⟩ := exists_mapM_eq_ok each
  exact ⟨_, by rw [renameCell, read]; rfl⟩

/-- References of a renamed cell are keys of the new table. -/
theorem mem_keys_of_renameCell {mesh : SharedGrid α} (sound : mesh.Sound space.reading)
    {ref : Ref (Cell α)} (member : ref ∈ mesh.cells.items) {cell : Cell α}
    (renamed : renameCell (newNames mesh space).reverse (space.cells.get ref) = .ok cell) :
    ∀ reference ∈ cell.vertices, ∃ key ∈ (numberedTable mesh space).keys, reference = .int key := by
  obtain ⟨references, read, same⟩ := bind_eq_ok renamed
  cases same
  intro reference referenceMember
  obtain ⟨old, oldMember, renamedTo⟩ :=
    exists_item_of_mem ((mapM_eq_ok_iff ..).mp read) referenceMember
  obtain ⟨_, vertex, number, _, _, numbered, answer⟩ := exists_renameReference sound.vertices
    (sound.references ref member old oldMember)
  have inTable : ((number : Int), vertex) ∈ (numberedTable mesh space).entries :=
    List.mem_map_of_mem numbered
  exact ⟨_, Table.mem_keys_of_mem inTable, Except.ok.inj (renamedTo.symm.trans answer)⟩

/-- The vertices under their numbers fit into the extent that the mesh has. -/
theorem wellKeyed_numberedTable {mesh : SharedGrid α} {after : MeshSpace α}
    (wellKeyed : mesh.vertices.WellKeyed space.reading.vertexIndex)
    (numbered : ∀ entry ∈ numberedVertices mesh space,
      (after.vertices.get entry.1).index = .int entry.2) :
    (numberedTable mesh space).WellKeyed after.reading.vertexIndex := by
  refine Table.wellKeyed_zipIdx _ (fun ref number member => numbered (ref, number) member) _ ?_
  intro extent fixed
  have size := wellKeyed.size_le
  have below := wellKeyed.top_lt_extent
  rw [(PointOrder.sort_perm _ _).length_eq]
  simp only [Table.extent, fixed, Option.getD_some] at below
  omega

/-- A space after the vertices of a mesh were numbered, the mesh got the new table, and its cells
new names for their references. -/
structure Renumbered (grid : Ref (SharedGrid α)) (space after : MeshSpace α) : Prop where
  grids : after.grids = space.grids.set grid { space.grids.get grid with
    vertices := numberedTable (space.grids.get grid) space }
  verticesHeld : ∀ ref, after.vertices.Holds ref ↔ space.vertices.Holds ref
  cellsHeld : ∀ ref, after.cells.Holds ref ↔ space.cells.Holds ref
  numbered : ∀ entry ∈ numberedVertices (space.grids.get grid) space,
    after.vertices.get entry.1 = { space.vertices.get entry.1 with index := .int entry.2 }
  otherVertices : ∀ ref ∉ (space.grids.get grid).vertices.items,
    after.vertices.get ref = space.vertices.get ref
  renamed : ∀ ref ∈ (space.grids.get grid).cells.items,
    renameCell (newNames (space.grids.get grid) space).reverse (space.cells.get ref) =
      .ok (after.cells.get ref)
  otherCells : ∀ ref ∉ (space.grids.get grid).cells.items,
    after.cells.get ref = space.cells.get ref

/-- Renumbering is never refused. -/
theorem exists_renumbered (keeps : space.Keeps grid) :
    ∃ after, (sortRenumber grid).outcome space = (.ok (), after) ∧ Renumbered grid space after := by
  rw [outcome_sortRenumber]
  have perm := numberedVertices_perm (space.grids.get grid) space
  have numbers := numbersVertices_foldl (numberedVertices (space.grids.get grid) space) space
    (perm.nodup_iff.mpr keeps.sound.vertices.items_nodup)
    fun entry member => keeps.verticesHeld entry.1 (perm.mem_iff.mp (List.mem_map_of_mem member))
  generalize List.foldl _ space _ = numbered at numbers
  have cells : (numbered.setGrid grid { space.grids.get grid with
      vertices := numberedTable (space.grids.get grid) space }).cells = space.cells := numbers.cells
  obtain ⟨after, done, renames⟩ := renamesCells_forM (newNames (space.grids.get grid) space).reverse
    (space.grids.get grid).cells.items
    (numbered.setGrid grid { space.grids.get grid with
      vertices := numberedTable (space.grids.get grid) space })
    keeps.sound.cells.items_nodup
    (by
      rw [cells]
      exact keeps.cellsHeld)
    (by
      rw [cells]
      exact fun ref member => exists_renameCell keeps.sound member)
  have vertices : after.vertices = numbered.vertices := renames.vertices
  refine ⟨after, done, ?_, ?_, ?_, ?_, ?_, ?_, ?_⟩
  · rw [renames.grids, setGrid, numbers.grids]
  · rw [vertices]
    exact numbers.held
  · rw [← cells]
    exact renames.held
  · rw [vertices]
    exact numbers.numbered
  · rw [vertices]
    exact fun ref outside => numbers.others ref (mt perm.mem_iff.mp outside)
  · rw [← cells]
    exact renames.renamed
  · rw [← cells]
    exact renames.others

/-- Numbered vertices, the new table, and cells that refer by new names fit together. -/
theorem Keeps.renumber (keeps : space.Keeps grid) {after : MeshSpace α}
    (renumbered : Renumbered grid space after) : after.Keeps grid := by
  have perm := numberedVertices_perm (space.grids.get grid) space
  have now : after.grids.get grid = { space.grids.get grid with
      vertices := numberedTable (space.grids.get grid) space } := by
    rw [renumbered.grids]
    exact Heap.get_set_same keeps.placed _
  constructor
  · rw [renumbered.grids]
    exact Heap.holds_set.mpr keeps.placed
  · rw [now]
    intro ref member
    obtain ⟨entry, entryMember, rfl⟩ := List.mem_map.mp member
    obtain ⟨pair, pairMember, rfl⟩ := List.mem_map.mp entryMember
    exact (renumbered.verticesHeld _).mpr
      (keeps.verticesHeld _ (perm.mem_iff.mp (List.mem_map_of_mem pairMember)))
  · rw [now]
    exact fun ref member => (renumbered.cellsHeld ref).mpr (keeps.cellsHeld ref member)
  · rw [now]
    refine ⟨wellKeyed_numberedTable keeps.sound.vertices ?_, ?_, ?_, keeps.sound.projection⟩
    · intro entry member
      rw [renumbered.numbered entry member]
    · refine keeps.sound.cells.congr fun key ref member => ?_
      obtain ⟨_, _, same⟩ := bind_eq_ok (renumbered.renamed ref (Table.mem_items_of_mem member))
      exact (congrArg Cell.index (Except.ok.inj same)).symm
    · intro ref member reference referenceMember
      obtain ⟨key, used, rfl⟩ := mem_keys_of_renameCell keeps.sound member
        (renumbered.renamed ref member) reference referenceMember
      exact ⟨key, used, rfl⟩

theorem sortRenumber_answers (keeps : space.Keeps grid) :
    ∃ after, (sortRenumber grid).outcome space = (.ok (), after) ∧ after.Keeps grid := by
  obtain ⟨after, done, renumbered⟩ := exists_renumbered keeps
  exact ⟨after, done, keeps.renumber renumbered⟩

end Regrid.MeshSpace
