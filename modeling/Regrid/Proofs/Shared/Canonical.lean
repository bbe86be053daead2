import Regrid.Proofs.Scalar.Double
import Regrid.Proofs.Shared.Sharing

/-!
Contract: renumbering the vertices of a mesh changes names only, and to the same ones for the same
mesh.

Owns:
- what renumbering leaves as it was, and the order that it brings about;
- that renumbering a second time changes nothing;
- that meshes which are the same up to the names of their vertices are numbered alike.

Does not own: vertices with a coordinate that equals nothing, and other meshes that share entities.
-/

namespace Regrid

open Attempt PointOrder

/-! ### Meshes up to the names of their vertices -/

namespace Mesh

variable {α : Type} [Scalar α]

/-- Two references name vertices at one place, each in its mesh. -/
def NamesAlike (first second : Grid α) (reference partner : Value) : Prop :=
  ∃ vertex other, first.vertices.getAt reference = .ok vertex ∧
    second.vertices.getAt partner = .ok other ∧ coincide vertex.point other.point = true

instance (first second : Grid α) (reference partner : Value) :
    Decidable (NamesAlike first second reference partner) :=
  match found : first.vertices.getAt reference, otherFound : second.vertices.getAt partner with
  | .ok vertex, .ok other => decidable_of_iff (coincide vertex.point other.point = true) (by
      simp [NamesAlike, found, otherFound])
  | .error _, _ => .isFalse (by simp [NamesAlike, found])
  | .ok _, .error _ => .isFalse (by simp [NamesAlike, otherFound])

/-- In each of two meshes the vertices are at different places, the places of both are the same, and
their cells have the same keys and refer to vertices at the same places. -/
structure SameUpToNames (first second : Grid α) : Prop where
  apart : first.vertices.items.Pairwise fun vertex other =>
    coincide vertex.point other.point = false
  otherApart : second.vertices.items.Pairwise fun vertex other =>
    coincide vertex.point other.point = false
  covered : ∀ vertex ∈ first.vertices.items, ∃ other ∈ second.vertices.items,
    coincide vertex.point other.point = true
  covers : ∀ other ∈ second.vertices.items, ∃ vertex ∈ first.vertices.items,
    coincide vertex.point other.point = true
  cells : List.Forall₂ (fun entry other => entry.1 = other.1 ∧
    List.Forall₂ (NamesAlike first second) entry.2.vertices other.2.vertices)
    first.cells.entries second.cells.entries

/-- Two meshes have vertices under the same numbers at the same places, and cells that refer to them
by the same numbers. -/
structure NumberedAlike (first second : Grid α) : Prop where
  vertices : List.Forall₂ (fun entry other => entry.1 = other.1 ∧ entry.2.index = other.2.index ∧
    coincide entry.2.point other.2.point = true) first.vertices.entries second.vertices.entries
  cells : first.cells.entries.map (fun entry => (entry.1, entry.2.vertices)) =
    second.cells.entries.map fun entry => (entry.1, entry.2.vertices)

end Mesh

namespace MeshSpace

variable {α : Type} [Scalar α] {grid : Ref (SharedGrid α)} {space after : MeshSpace α}

/-! ### Names only -/

/-- A space differs from an earlier one in the names of the vertices of a mesh only: they are
numbered from zero, by their points and then by their earlier order, and the cells refer to the same
vertices by the new names. -/
structure Renames (grid : Ref (SharedGrid α)) (space after : MeshSpace α) : Prop where
  keys : (after.grids.get grid).vertices.keys =
    (List.range (space.grids.get grid).vertices.size).map Nat.cast
  indexed : ∀ key vertex, (key, vertex) ∈ (after.grids.get grid).vertices.entries →
    (after.vertices.get vertex).index = .int key
  vertices : (after.grids.get grid).vertices.items.Perm (space.grids.get grid).vertices.items
  points : ∀ vertex, (after.vertices.get vertex).point = (space.vertices.get vertex).point
  ordered : (after.grids.get grid).vertices.items.Pairwise fun first second =>
    precedes (space.vertices.get first).point (space.vertices.get second).point = true ∨
      coincide (space.vertices.get first).point (space.vertices.get second).point = true ∧
        [first, second].Sublist (space.grids.get grid).vertices.items
  vertexExtent : (after.grids.get grid).vertices.fixedExtent =
    (space.grids.get grid).vertices.fixedExtent
  rest : after.grids.get grid =
    { space.grids.get grid with vertices := (after.grids.get grid).vertices }
  cells : ∀ cell, after.cells.get cell =
    { space.cells.get cell with vertices := (after.cells.get cell).vertices }
  polygons : ∀ key, (after.view grid).polygonAt key = (space.view grid).polygonAt key
  otherVertices : ∀ vertex ∉ (space.grids.get grid).vertices.items,
    after.vertices.get vertex = space.vertices.get vertex
  otherCells : ∀ cell ∉ (space.grids.get grid).cells.items,
    after.cells.get cell = space.cells.get cell
  otherGrids : ∀ other, other ≠ grid → after.grids.get other = space.grids.get other

/-- All vertices of a mesh have a place in the order of points. -/
def Placed (space : MeshSpace α) (grid : Ref (SharedGrid α)) : Prop :=
  ∀ vertex ∈ (space.grids.get grid).vertices.items,
    isPlaceable (space.vertices.get vertex).point = true

instance (space : MeshSpace α) (grid : Ref (SharedGrid α)) : Decidable (space.Placed grid) :=
  inferInstanceAs (Decidable (∀ vertex ∈ (space.grids.get grid).vertices.items,
    isPlaceable (space.vertices.get vertex).point = true))

/-- The mesh holds the numbered vertices. -/
theorem Renumbered.grid_own (renumbered : Renumbered grid space after) (keeps : space.Keeps grid) :
    after.grids.get grid = { space.grids.get grid with
      vertices := numberedTable (space.grids.get grid) space } := by
  rw [renumbered.grids]
  exact Heap.get_set_same keeps.placed _

theorem keys_numberedTable (mesh : SharedGrid α) (space : MeshSpace α) :
    (numberedTable mesh space).keys = (List.range mesh.vertices.size).map Nat.cast := by
  have count : mesh.vertices.size = (sort (fun ref => (space.vertices.get ref).point)
      mesh.vertices.items).length := by
    rw [(sort_perm _ _).length_eq, Table.items, List.length_map]
    rfl
  rw [count, List.range_eq_range', ← List.zipIdx_map_snd 0]
  simp only [Table.keys, numberedTable, numberedVertices, List.map_map]
  rfl

theorem items_numberedTable (mesh : SharedGrid α) (space : MeshSpace α) :
    (numberedTable mesh space).items =
      sort (fun ref => (space.vertices.get ref).point) mesh.vertices.items := by
  simp only [Table.items, numberedTable, numberedVertices, List.map_map]
  exact List.zipIdx_map_fst 0 _

/-- A renamed reference leads to the point that it led to. -/
theorem Renumbered.pointAt_own (renumbered : Renumbered grid space after)
    (keeps : space.Keeps grid) {reference : Value}
    (named : (space.grids.get grid).Names reference) :
    renameReference (newNames (space.grids.get grid) space).reverse reference >>=
      after.pointAt grid = space.pointAt grid reference := by
  obtain ⟨key, vertex, number, known, entry, numbered, renamed⟩ :=
    exists_renameReference keeps.sound.vertices named
  have listed : ((number : Int), vertex) ∈ (after.grids.get grid).vertices.entries := by
    rw [renumbered.grid_own keeps]
    exact List.mem_map_of_mem numbered
  have distinct := (keeps.renumber renumbered).sound.vertices.distinct
  rw [renamed]
  show after.pointAt grid (.int number) = _
  rw [pointAt_eq, pointAt_eq, Table.getAt_of_mem distinct listed (Value.integerKey?_int _),
    Table.getAt_of_mem keeps.sound.vertices.distinct entry known]
  exact congrArg Except.ok (renumbered.point vertex)

theorem Renumbered.polygonAt_own (renumbered : Renumbered grid space after)
    (keeps : space.Keeps grid) (key : Int) :
    (after.view grid).polygonAt key = (space.view grid).polygonAt key := by
  have tables : (after.grids.get grid).cells = (space.grids.get grid).cells := by
    rw [renumbered.grid_own keeps]
  rw [polygonAt_view, polygonAt_view, tables]
  cases found : (space.grids.get grid).cells.get key with
  | error reason => rfl
  | ok cell =>
      have member := Table.mem_items_of_mem (Table.mem_of_get found)
      obtain ⟨references, read, same⟩ := bind_eq_ok (renumbered.renamed cell member)
      obtain ⟨polygon, drawn⟩ := keeps.exists_corners member
      show (after.cells.get cell).vertices.mapM _ = (space.cells.get cell).vertices.mapM _
      rw [← Except.ok.inj same, mapM_mapM read]
      refine (mapM_eq_mapM_iff drawn).mpr fun reference referenceMember => ?_
      exact renumbered.pointAt_own keeps (keeps.sound.references cell member _ referenceMember)

theorem Renumbered.cell (renumbered : Renumbered grid space after) (cell : Ref (Cell α)) :
    after.cells.get cell =
      { space.cells.get cell with vertices := (after.cells.get cell).vertices } := by
  by_cases inside : cell ∈ (space.grids.get grid).cells.items
  · obtain ⟨_, _, same⟩ := bind_eq_ok (renumbered.renamed cell inside)
    rw [← Except.ok.inj same]
  · rw [renumbered.otherCells cell inside]

/-! ### What is seen of a mesh -/

theorem vertices_items_view (space : MeshSpace α) (grid : Ref (SharedGrid α)) :
    (space.view grid).vertices.items =
      (space.grids.get grid).vertices.items.map space.vertices.get :=
  Table.items_map ..

theorem mem_items_view {vertex : Ref (Vertex α)}
    (member : vertex ∈ (space.grids.get grid).vertices.items) :
    space.vertices.get vertex ∈ (space.view grid).vertices.items := by
  rw [vertices_items_view]
  exact List.mem_map_of_mem member

theorem exists_of_mem_items_view {vertex : Vertex α}
    (member : vertex ∈ (space.view grid).vertices.items) :
    ∃ ref ∈ (space.grids.get grid).vertices.items, space.vertices.get ref = vertex := by
  rw [vertices_items_view] at member
  exact List.mem_map.mp member

theorem apart_of_view (apart : (space.view grid).vertices.items.Pairwise fun vertex other =>
      coincide vertex.point other.point = false) :
    (space.grids.get grid).vertices.items.Pairwise fun vertex other =>
      coincide (space.vertices.get vertex).point (space.vertices.get other).point = false := by
  rw [vertices_items_view] at apart
  exact List.pairwise_map.mp apart

theorem cells_of_view {other : Ref (SharedGrid α)} {otherSpace : MeshSpace α}
    (same : Mesh.SameUpToNames (space.view grid) (otherSpace.view other)) :
    List.Forall₂ (fun entry partner => entry.1 = partner.1 ∧
        List.Forall₂ (Mesh.NamesAlike (space.view grid) (otherSpace.view other))
          (space.cells.get entry.2).vertices (otherSpace.cells.get partner.2).vertices)
      (space.grids.get grid).cells.entries (otherSpace.grids.get other).cells.entries := by
  have each := same.cells
  change List.Forall₂ _ (List.map _ _) (List.map _ _) at each
  rw [List.forall₂_map_left_iff, List.forall₂_map_right_iff] at each
  exact each

theorem mem_items_of_numbered {entry : Ref (Vertex α) × Nat}
    (numbered : entry ∈ numberedVertices (space.grids.get grid) space) :
    entry.1 ∈ (space.grids.get grid).vertices.items :=
  (numberedVertices_perm _ _).mem_iff.mp (List.mem_map_of_mem numbered)

/-- A reference leads to the vertex behind its key. -/
theorem getAt_view (keeps : space.Keeps grid) {key : Int} {vertex : Ref (Vertex α)}
    (entry : (key, vertex) ∈ (space.grids.get grid).vertices.entries) {reference : Value}
    (known : reference.integerKey? = .ok (some key)) :
    (space.view grid).vertices.getAt reference = .ok (space.vertices.get vertex) := by
  show (Table.map _ _).getAt reference = _
  rw [Table.getAt_map, Table.getAt_of_mem keeps.sound.vertices.distinct entry known]
  rfl

/-- What is seen of a renumbered mesh are its vertices under their numbers. -/
theorem Renumbered.vertices_view (renumbered : Renumbered grid space after)
    (keeps : space.Keeps grid) :
    (after.view grid).vertices.entries = (numberedVertices (space.grids.get grid) space).map
      fun entry => ((entry.2 : Int),
        { space.vertices.get entry.1 with index := .int entry.2 }) := by
  have tables : (after.view grid).vertices =
      (numberedTable (space.grids.get grid) space).map after.vertices.get := by
    show (after.grids.get grid).vertices.map _ = _
    rw [renumbered.grid_own keeps]
  rw [tables]
  simp only [Table.map, numberedTable, List.map_map]
  apply List.map_congr_left
  intro entry member
  show ((entry.2 : Int), after.vertices.get entry.1) = _
  rw [renumbered.numbered entry member]

theorem Renumbered.cells_view (renumbered : Renumbered grid space after)
    (keeps : space.Keeps grid) :
    (after.view grid).cells.entries = (space.grids.get grid).cells.entries.map
      fun entry => (entry.1, after.cells.get entry.2) := by
  show ((after.grids.get grid).cells.map _).entries = _
  rw [renumbered.grid_own keeps]
  rfl

variable [Scalar.Ordered α]

theorem Renumbered.renames (renumbered : Renumbered grid space after) (keeps : space.Keeps grid)
    (placed : space.Placed grid) : Renames grid space after := by
  have own := renumbered.grid_own keeps
  refine ⟨?_, (keeps.renumber renumbered).sound.vertices.indexed, ?_, renumbered.point, ?_, ?_, ?_,
    renumbered.cell, renumbered.polygonAt_own keeps, renumbered.otherVertices,
    renumbered.otherCells, ?_⟩
  · rw [own]
    exact keys_numberedTable ..
  · rw [own]
    show (numberedTable (space.grids.get grid) space).items.Perm _
    rw [items_numberedTable]
    exact sort_perm ..
  · rw [own]
    show (numberedTable (space.grids.get grid) space).items.Pairwise _
    rw [items_numberedTable]
    exact sort_stable placed keeps.sound.vertices.items_nodup
  · rw [own]
    rfl
  · rw [own]
  · intro other different
    rw [renumbered.grids]
    exact Heap.get_set_other different _ _

/-! ### Once is enough -/

theorem Renumbered.sorted (renumbered : Renumbered grid space after) (keeps : space.Keeps grid)
    (placed : space.Placed grid) :
    numberedVertices (after.grids.get grid) after =
      numberedVertices (space.grids.get grid) space := by
  have items : (after.grids.get grid).vertices.items =
      sort (fun ref => (space.vertices.get ref).point)
        (space.grids.get grid).vertices.items := by
    rw [renumbered.grid_own keeps]
    exact items_numberedTable ..
  have points : (fun ref => (after.vertices.get ref).point) =
      fun ref => (space.vertices.get ref).point := funext renumbered.point
  rw [numberedVertices, items, points, sort_sort placed, numberedVertices]

theorem Renumbered.table_again (renumbered : Renumbered grid space after)
    (keeps : space.Keeps grid) (placed : space.Placed grid) :
    numberedTable (after.grids.get grid) after = (after.grids.get grid).vertices := by
  have numbered := renumbered.sorted keeps placed
  have own := renumbered.grid_own keeps
  have count : ∀ (mesh : SharedGrid α) (space : MeshSpace α),
      (sort (fun ref => (space.vertices.get ref).point) mesh.vertices.items).length =
        (numberedVertices mesh space).length := by
    intro mesh space
    rw [numberedVertices, List.length_zipIdx]
  have extent : (after.grids.get grid).vertices.fixedExtent =
      (space.grids.get grid).vertices.fixedExtent := by
    rw [own]
    rfl
  have tables : numberedTable (after.grids.get grid) after =
      numberedTable (space.grids.get grid) space := by
    unfold numberedTable
    rw [count, count, numbered, extent]
  rw [tables, own]

/-- A reference that was renamed is the number of a vertex, and keeps its name. -/
theorem Renumbered.renameReference_again (renumbered : Renumbered grid space after)
    (keeps : space.Keeps grid) (placed : space.Placed grid) {cell : Ref (Cell α)}
    (member : cell ∈ (space.grids.get grid).cells.items) :
    ∀ reference ∈ (after.cells.get cell).vertices,
      renameReference (newNames (after.grids.get grid) after).reverse reference =
        .ok reference := by
  intro reference referenceMember
  have kept := keeps.renumber renumbered
  obtain ⟨key, used, rfl⟩ := mem_keys_of_renameCell keeps.sound member
    (renumbered.renamed cell member) reference referenceMember
  have named : (after.grids.get grid).Names (.int key) := by
    rw [Mesh.names_int, renumbered.grid_own keeps]
    exact used
  obtain ⟨_, vertex, number, same, entry, numbered, renamed⟩ :=
    exists_renameReference kept.sound.vertices named
  cases same
  rw [renumbered.sorted keeps placed] at numbered
  have index : (after.vertices.get vertex).index = .int key :=
    kept.sound.vertices.indexed _ _ entry
  rw [renumbered.numbered _ numbered] at index
  rw [renamed]
  exact congrArg Except.ok index

/-- The second time every vertex has its number already. -/
theorem Renumbered.vertices_again (renumbered : Renumbered grid space after)
    (keeps : space.Keeps grid) (placed : space.Placed grid) {twice : MeshSpace α}
    (second : Renumbered grid after twice) : twice.vertices = after.vertices := by
  have numbered := renumbered.sorted keeps placed
  apply Heap.eq_of_holds second.verticesHeld
  intro ref
  by_cases inside : ref ∈ (after.grids.get grid).vertices.items
  · obtain ⟨number, member⟩ := exists_numbered inside after
    have first := renumbered.numbered _ (numbered ▸ member)
    rw [second.numbered _ member, first]
  · exact second.otherVertices ref inside

/-- The second time every reference has its name already. -/
theorem Renumbered.cells_again (renumbered : Renumbered grid space after)
    (keeps : space.Keeps grid) (placed : space.Placed grid) {twice : MeshSpace α}
    (second : Renumbered grid after twice) : twice.cells = after.cells := by
  apply Heap.eq_of_holds second.cellsHeld
  intro ref
  by_cases inside : ref ∈ (after.grids.get grid).cells.items
  · obtain ⟨references, read, same⟩ := bind_eq_ok (second.renamed ref inside)
    rw [renumbered.grid_own keeps] at inside
    have unchanged := (mapM_eq_ok_iff ..).mpr (List.forall₂_same.mpr
      (renumbered.renameReference_again keeps placed inside))
    cases read.symm.trans unchanged
    exact (Except.ok.inj same).symm
  · exact second.otherCells ref inside

theorem Renumbered.again (renumbered : Renumbered grid space after) (keeps : space.Keeps grid)
    (placed : space.Placed grid) {twice : MeshSpace α} (second : Renumbered grid after twice) :
    twice = after := by
  have vertices := renumbered.vertices_again keeps placed second
  have cells := renumbered.cells_again keeps placed second
  have grids : twice.grids = after.grids := by
    rw [second.grids, renumbered.table_again keeps placed]
    exact Heap.set_get ..
  obtain ⟨_, _, _⟩ := twice
  obtain ⟨_, _, _⟩ := after
  cases vertices
  cases cells
  cases grids
  rfl

/-! ### The same names for the same mesh -/

/-- The places of the vertices of a mesh, in their order. -/
def places (space : MeshSpace α) (grid : Ref (SharedGrid α)) :
    List (Lex (Scalar.Ordered.Rank α × Scalar.Ordered.Rank α)) :=
  (sort (fun ref => (space.vertices.get ref).point) (space.grids.get grid).vertices.items).map
    fun ref => rank (space.vertices.get ref).point

/-- The number of a vertex is the position of its place. -/
theorem getElem?_places {entry : Ref (Vertex α) × Nat}
    (numbered : entry ∈ numberedVertices (space.grids.get grid) space) :
    (space.places grid)[entry.2]? = some (rank (space.vertices.get entry.1).point) := by
  have found := List.mk_mem_zipIdx_iff_getElem?.mp numbered
  rw [places, List.getElem?_map, found, Option.map_some]

section Alike

variable {other : Ref (SharedGrid α)} {otherSpace otherAfter : MeshSpace α}

/-- Meshes that are the same up to names have their vertices at the same places. -/
theorem places_eq (placed : space.Placed grid) (otherPlaced : otherSpace.Placed other)
    (same : Mesh.SameUpToNames (space.view grid) (otherSpace.view other)) :
    space.places grid = otherSpace.places other := by
  apply map_rank_sort placed otherPlaced (apart_of_view same.apart) (apart_of_view same.otherApart)
  · intro vertex member
    obtain ⟨_, found, level⟩ := same.covered _ (mem_items_view member)
    obtain ⟨partner, partnerMember, rfl⟩ := exists_of_mem_items_view found
    exact ⟨partner, partnerMember, level⟩
  · intro partner member
    obtain ⟨_, found, level⟩ := same.covers _ (mem_items_view member)
    obtain ⟨vertex, vertexMember, rfl⟩ := exists_of_mem_items_view found
    exact ⟨vertex, vertexMember, level⟩

theorem nodup_places (placed : space.Placed grid)
    (apart : (space.view grid).vertices.items.Pairwise fun vertex other =>
      coincide vertex.point other.point = false) : (space.places grid).Nodup :=
  List.pairwise_map.mpr ((sort_strict placed (apart_of_view apart)).imp ne_of_lt)

/-- Vertices at one place get one number. -/
theorem number_eq (placed : space.Placed grid) (otherPlaced : otherSpace.Placed other)
    (same : Mesh.SameUpToNames (space.view grid) (otherSpace.view other))
    {vertex partner : Ref (Vertex α)} {number otherNumber : Nat}
    (numbered : (vertex, number) ∈ numberedVertices (space.grids.get grid) space)
    (otherNumbered : (partner, otherNumber) ∈
      numberedVertices (otherSpace.grids.get other) otherSpace)
    (level : rank (space.vertices.get vertex).point =
      rank (otherSpace.vertices.get partner).point) : number = otherNumber := by
  have first := getElem?_places numbered
  have second := getElem?_places otherNumbered
  rw [← places_eq placed otherPlaced same, ← level, ← first] at second
  have inside := (List.getElem?_eq_some_iff.mp first).1
  exact (List.getElem?_inj inside (nodup_places placed same.apart)).mp second.symm

/-- References to vertices at one place get one name. -/
theorem renameReference_alike (keeps : space.Keeps grid) (otherKeeps : otherSpace.Keeps other)
    (placed : space.Placed grid) (otherPlaced : otherSpace.Placed other)
    (same : Mesh.SameUpToNames (space.view grid) (otherSpace.view other))
    {reference partner : Value} (named : (space.grids.get grid).Names reference)
    (otherNamed : (otherSpace.grids.get other).Names partner)
    (alike : Mesh.NamesAlike (space.view grid) (otherSpace.view other) reference partner) :
    renameReference (newNames (space.grids.get grid) space).reverse reference =
      renameReference (newNames (otherSpace.grids.get other) otherSpace).reverse partner := by
  obtain ⟨key, vertex, number, known, entry, numbered, renamed⟩ :=
    exists_renameReference keeps.sound.vertices named
  obtain ⟨otherKey, mate, otherNumber, otherKnown, otherEntry, otherNumbered, otherRenamed⟩ :=
    exists_renameReference otherKeeps.sound.vertices otherNamed
  obtain ⟨_, _, found, otherFound, level⟩ := alike
  cases (getAt_view keeps entry known).symm.trans found
  cases (getAt_view otherKeeps otherEntry otherKnown).symm.trans otherFound
  have numbers : number = otherNumber := by
    apply number_eq placed otherPlaced same numbered otherNumbered
    exact (coincide_iff (placed _ (mem_items_of_numbered numbered))
      (otherPlaced _ (mem_items_of_numbered otherNumbered))).mp level
  rw [renamed, otherRenamed, numbers]

/-- The vertices of meshes that are the same up to names come in one order. -/
theorem numberedVertices_alike (placed : space.Placed grid)
    (otherPlaced : otherSpace.Placed other)
    (same : Mesh.SameUpToNames (space.view grid) (otherSpace.view other)) :
    List.Forall₂ (fun entry partner => coincide (space.vertices.get entry.1).point
        (otherSpace.vertices.get partner.1).point = true ∧ entry.2 = partner.2)
      (numberedVertices (space.grids.get grid) space)
      (numberedVertices (otherSpace.grids.get other) otherSpace) := by
  have ranks : List.Forall₂ (fun vertex partner => rank (space.vertices.get vertex).point =
      rank (otherSpace.vertices.get partner).point)
      (sort (fun ref => (space.vertices.get ref).point) (space.grids.get grid).vertices.items)
      (sort (fun ref => (otherSpace.vertices.get ref).point)
        (otherSpace.grids.get other).vertices.items) := by
    have equal := places_eq placed otherPlaced same
    rw [places, places, ← List.forall₂_eq_eq_eq, List.forall₂_map_left_iff,
      List.forall₂_map_right_iff] at equal
    exact equal
  apply forall₂_zipIdx (R := fun vertex partner => coincide (space.vertices.get vertex).point
    (otherSpace.vertices.get partner).point = true)
  apply forall₂_imp_of_mem ranks
  intro vertex member partner partnerMember level
  exact (coincide_iff (placed _ ((sort_perm _ _).mem_iff.mp member))
    (otherPlaced _ ((sort_perm _ _).mem_iff.mp partnerMember))).mpr level

/-- Cells whose references are alike get the same references. -/
theorem Renumbered.references_alike (renumbered : Renumbered grid space after)
    (otherRenumbered : Renumbered other otherSpace otherAfter) (keeps : space.Keeps grid)
    (otherKeeps : otherSpace.Keeps other) (placed : space.Placed grid)
    (otherPlaced : otherSpace.Placed other)
    (same : Mesh.SameUpToNames (space.view grid) (otherSpace.view other))
    {cell partner : Ref (Cell α)} (member : cell ∈ (space.grids.get grid).cells.items)
    (otherMember : partner ∈ (otherSpace.grids.get other).cells.items)
    (alike : List.Forall₂ (Mesh.NamesAlike (space.view grid) (otherSpace.view other))
      (space.cells.get cell).vertices (otherSpace.cells.get partner).vertices) :
    (after.cells.get cell).vertices = (otherAfter.cells.get partner).vertices := by
  obtain ⟨references, read, written⟩ := bind_eq_ok (renumbered.renamed cell member)
  obtain ⟨otherReferences, otherRead, otherWritten⟩ :=
    bind_eq_ok (otherRenumbered.renamed partner otherMember)
  have equal := mapM_eq_mapM_of_forall₂ (forall₂_imp_of_mem alike
    fun reference referenceMember other otherReferenceMember =>
      renameReference_alike keeps otherKeeps placed otherPlaced same
        (keeps.sound.references cell member reference referenceMember)
        (otherKeeps.sound.references partner otherMember other otherReferenceMember))
  rw [read, otherRead] at equal
  cases equal
  rw [← Except.ok.inj written, ← Except.ok.inj otherWritten]

/-- Meshes that are the same up to names are numbered alike. -/
theorem Renumbered.alike (renumbered : Renumbered grid space after)
    (otherRenumbered : Renumbered other otherSpace otherAfter) (keeps : space.Keeps grid)
    (otherKeeps : otherSpace.Keeps other) (placed : space.Placed grid)
    (otherPlaced : otherSpace.Placed other)
    (same : Mesh.SameUpToNames (space.view grid) (otherSpace.view other)) :
    Mesh.NumberedAlike (after.view grid) (otherAfter.view other) := by
  constructor
  · rw [renumbered.vertices_view keeps, otherRenumbered.vertices_view otherKeeps,
      List.forall₂_map_left_iff, List.forall₂_map_right_iff]
    refine (numberedVertices_alike placed otherPlaced same).imp fun entry partner alike => ?_
    exact ⟨congrArg Nat.cast alike.2, congrArg (fun number : Nat => Value.int number) alike.2,
      alike.1⟩
  · rw [renumbered.cells_view keeps, otherRenumbered.cells_view otherKeeps, List.map_map,
      List.map_map, ← List.forall₂_eq_eq_eq, List.forall₂_map_left_iff,
      List.forall₂_map_right_iff]
    apply forall₂_imp_of_mem (cells_of_view same)
    rintro ⟨key, cell⟩ member ⟨_, partner⟩ partnerMember ⟨rfl, alike⟩
    exact congrArg (Prod.mk key) (renumbered.references_alike otherRenumbered keeps otherKeeps
      placed otherPlaced same (Table.mem_items_of_mem member)
      (Table.mem_items_of_mem partnerMember) alike)

/-- Where each vertex has a partner at the very same point, the numbered vertices are the same. -/
theorem Renumbered.alike_of_points (renumbered : Renumbered grid space after)
    (otherRenumbered : Renumbered other otherSpace otherAfter) (keeps : space.Keeps grid)
    (otherKeeps : otherSpace.Keeps other) (placed : space.Placed grid)
    (otherPlaced : otherSpace.Placed other)
    (same : Mesh.SameUpToNames (space.view grid) (otherSpace.view other))
    (points : ∀ vertex ∈ (space.view grid).vertices.items,
      ∃ partner ∈ (otherSpace.view other).vertices.items, vertex.point = partner.point) :
    (after.view grid).vertices.entries = (otherAfter.view other).vertices.entries := by
  rw [renumbered.vertices_view keeps, otherRenumbered.vertices_view otherKeeps,
    ← List.forall₂_eq_eq_eq, List.forall₂_map_left_iff, List.forall₂_map_right_iff]
  apply forall₂_imp_of_mem (numberedVertices_alike placed otherPlaced same)
  rintro ⟨vertex, number⟩ member ⟨partner, _⟩ partnerMember ⟨level, rfl⟩
  have inside := mem_items_of_numbered member
  have otherInside := mem_items_of_numbered partnerMember
  obtain ⟨_, found, point⟩ := points _ (mem_items_view inside)
  obtain ⟨mate, mateMember, rfl⟩ := exists_of_mem_items_view found
  -- the partner by number is at the place of the partner by point, and vertices are apart
  have ranks : rank (otherSpace.vertices.get mate).point =
      rank (otherSpace.vertices.get partner).point := by
    rw [← point]
    exact (coincide_iff (placed _ inside) (otherPlaced _ otherInside)).mp level
  obtain rfl : mate = partner := List.inj_on_of_nodup_map
    (nodup_places otherPlaced same.otherApart) ((sort_perm _ _).mem_iff.mpr mateMember)
    ((sort_perm _ _).mem_iff.mpr otherInside) ranks
  obtain ⟨first, second⟩ := Prod.mk.inj point
  show ((number : Int), Vertex.mk _ _ _) = ((number : Int), Vertex.mk _ _ _)
  rw [first, second]

end Alike

/-- Renumbering the vertices of a mesh whose vertices all have a place is never refused. It changes
the names of the vertices only, and a second time nothing. Meshes that are the same up to the names
of their vertices are numbered alike, and where their points are the very same, they have the same
vertices. -/
theorem renumbering_is_canonical (keeps : space.Keeps grid) (placed : space.Placed grid) :
    ∃ after, (sortRenumber grid).outcome space = (.ok (), after) ∧
      after.Keeps grid ∧ Renames grid space after ∧
      (sortRenumber grid).outcome after = (.ok (), after) ∧
      ∀ (other : Ref (SharedGrid α)) (otherSpace : MeshSpace α), otherSpace.Keeps other →
        otherSpace.Placed other →
        Mesh.SameUpToNames (space.view grid) (otherSpace.view other) →
        ∃ otherAfter, (sortRenumber other).outcome otherSpace = (.ok (), otherAfter) ∧
          Mesh.NumberedAlike (after.view grid) (otherAfter.view other) ∧
          ((∀ vertex ∈ (space.view grid).vertices.items,
              ∃ partner ∈ (otherSpace.view other).vertices.items, vertex.point = partner.point) →
            (after.view grid).vertices.entries = (otherAfter.view other).vertices.entries) := by
  obtain ⟨after, done, renumbered⟩ := exists_renumbered keeps
  have kept := keeps.renumber renumbered
  obtain ⟨twice, again, second⟩ := exists_renumbered kept
  rw [renumbered.again keeps placed second] at again
  refine ⟨after, done, kept, renumbered.renames keeps placed, again, ?_⟩
  intro other otherSpace otherKeeps otherPlaced same
  obtain ⟨otherAfter, otherDone, otherRenumbered⟩ := exists_renumbered otherKeeps
  exact ⟨otherAfter, otherDone,
    renumbered.alike otherRenumbered keeps otherKeeps placed otherPlaced same,
    renumbered.alike_of_points otherRenumbered keeps otherKeeps placed otherPlaced same⟩

/-! ### Triangles -/

/-- A space with one mesh, which is empty. -/
def oneMesh : MeshSpace Float where
  grids := ⟨#[{}]⟩

theorem oneMesh_reached : Reached ⟨0⟩ oneMesh :=
  .created {} (rfl : Mesh.create (.text "") .generic .lonLat .onCells (.text "") = .ok {}) rfl

/-- What operations on the mesh leave. -/
def performed (operations : List (Operation Float)) : MeshSpace Float :=
  operations.foldl (fun space operation => ((operation.perform ⟨0⟩).outcome space).2) oneMesh

/-- A triangle whose corners get their names when it is added. -/
def addedAtOnce : MeshSpace Float :=
  performed [.addPolygon [(1, 0), (0, 1), (0, 0)] { area := 0.5 }]

/-- The triangle with corners that were added before it, in another order, and with one of both
zeros in their coordinates. -/
def addedAfterCorners (zero : Float) : MeshSpace Float :=
  performed [.makeVertex ⟨zero, 1, .null⟩, .addVertex ⟨0⟩, .makeVertex ⟨zero, zero, .null⟩,
    .addVertex ⟨1⟩, .makeVertex ⟨1, zero, .null⟩, .addVertex ⟨2⟩,
    .makeCell { vertices := [.int 2, .int 0, .int 1], area := 0.5 }, .addCell ⟨0⟩]

theorem addedAtOnce_keeps : addedAtOnce.Keeps ⟨0⟩ :=
  (oneMesh_reached.performed (.addPolygon _ _) trivial).keeps

theorem addedAfterCorners_keeps {zero : Float} (either : zero = 0 ∨ zero = -0) :
    (addedAfterCorners zero).Keeps ⟨0⟩ := by
  apply Reached.keeps
  refine .performed (.performed (.performed (.performed (.performed (.performed (.performed
    (.performed oneMesh_reached (.makeVertex _) trivial) (.addVertex _) ?_) (.makeVertex _) trivial)
      (.addVertex _) ?_) (.makeVertex _) trivial) (.addVertex _) ?_) (.makeCell _) trivial)
        (.addCell _) ?_
  · show 0 < _
    rcases either with rfl | rfl <;> decide +kernel
  · show 1 < _
    rcases either with rfl | rfl <;> decide +kernel
  · show 2 < _
    rcases either with rfl | rfl <;> decide +kernel
  · show 0 < _
    rcases either with rfl | rfl <;> decide +kernel

theorem sameUpToNames_added {zero : Float} (either : zero = 0 ∨ zero = -0) :
    Mesh.SameUpToNames (addedAtOnce.view ⟨0⟩) ((addedAfterCorners zero).view ⟨0⟩) := by
  rcases either with rfl | rfl <;> constructor <;> decide +kernel

/-- The triangle gets the same vertices both times, up to the sign of zero. -/
theorem triangles_are_numbered_alike :
    ((addedAtOnce.view ⟨0⟩).vertices.entries.map fun entry => (entry.1, entry.2.point)) =
      [(0, 1, 0), (1, 0, 1), (2, 0, 0)] ∧
    (((addedAfterCorners (-0)).view ⟨0⟩).vertices.entries.map fun entry =>
      (entry.1, entry.2.point)) = [(0, -0, 1), (1, -0, -0), (2, 1, -0)] ∧
    ∃ after, (sortRenumber ⟨0⟩).outcome addedAtOnce = (.ok (), after) ∧
      (∃ otherAfter, (sortRenumber ⟨0⟩).outcome (addedAfterCorners 0) = (.ok (), otherAfter) ∧
        (after.view ⟨0⟩).vertices.entries = (otherAfter.view ⟨0⟩).vertices.entries) ∧
      ∃ otherAfter, (sortRenumber ⟨0⟩).outcome (addedAfterCorners (-0)) = (.ok (), otherAfter) ∧
        Mesh.NumberedAlike (after.view ⟨0⟩) (otherAfter.view ⟨0⟩) := by
  have placed : addedAtOnce.Placed ⟨0⟩ := by decide +kernel
  obtain ⟨after, done, _, _, _, canonical⟩ := renumbering_is_canonical addedAtOnce_keeps placed
  refine ⟨by decide +kernel, by decide +kernel, after, done, ?_, ?_⟩
  · have either : (0 : Float) = 0 ∨ (0 : Float) = -0 := .inl rfl
    obtain ⟨otherAfter, otherDone, _, equal⟩ := canonical ⟨0⟩ (addedAfterCorners 0)
      (addedAfterCorners_keeps either) (by decide +kernel) (sameUpToNames_added either)
    exact ⟨otherAfter, otherDone, equal (by decide +kernel)⟩
  · have either : (-0 : Float) = 0 ∨ (-0 : Float) = -0 := .inr rfl
    obtain ⟨otherAfter, otherDone, alike, _⟩ := canonical ⟨0⟩ (addedAfterCorners (-0))
      (addedAfterCorners_keeps either) (by decide +kernel) (sameUpToNames_added either)
    exact ⟨otherAfter, otherDone, alike⟩

end MeshSpace

end Regrid
