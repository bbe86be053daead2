import Regrid.Proofs.Shared.Reachable
import Regrid.Proofs.Store.Decoding
import Regrid.Proofs.Store.Encoding

/-!
Contract: a mesh that is written and read again is the mesh that it was, in the order of its
keys.

Owns:
- the contents that a sound mesh shows, and that the format admits them;
- the agreement of two meshes that show the same contents;
- the round trip of every mesh that operations reach.

Does not own: the writing and the reading by themselves.
-/

namespace Regrid.GridTables

open Regrid.Schema Attempt

variable {α : Type}

/-! ### The contents of a mesh -/

/-- The integer that a value is read as, if there is one. -/
def integerOf (value : Value) : Int :=
  match value.toInteger with
  | .ok n => n
  | .error _ => 0

/-- What a mesh with given texts shows in the order of its keys. -/
def Contents.ofGrid (name projection : String) (grid : Grid α) : Contents α :=
  let lists := grid.cells.sortedItems.map fun cell => cell.vertices.map integerOf
  { name, projection
    type := grid.type
    coordinates := grid.coordinates
    parameterization := grid.parameterization
    cellExtent := grid.cells.extent
    vertexExtent := grid.vertices.extent
    vertexIndex := grid.vertices.sorted.map (·.1)
    points := grid.vertices.sortedItems.map Vertex.point
    cellIndex := grid.cells.sorted.map (·.1)
    addresses := grid.cells.sortedItems.map fun cell =>
      (integerOf cell.i, integerOf cell.j, integerOf cell.k)
    areas := grid.cells.sortedItems.map Cell.area
    references := lists.flatten
    offsets := offsetsFrom 0 (lists.map List.length) }

/-- A value is an integer that fits 32 bits. -/
def HoldsWord : Value → Prop
  | .int n => IsWord n
  | _ => False

instance : DecidablePred HoldsWord
  | .int n => inferInstanceAs (Decidable (IsWord n))
  | .null | .bool _ | .float _ | .text _ | .moment _ | .list _ | .map _ => .isFalse id

theorem HoldsWord.exists_int {value : Value} (holds : HoldsWord value) :
    ∃ n, value = .int n ∧ IsWord n := by
  cases value with
  | int n => exact ⟨n, rfl, holds⟩
  | null | bool _ | float _ | text _ | moment _ | list _ | map _ => cases holds

/-- Native addresses are integers, and these, the extents and the number of references fit 32
bits. -/
structure FitsWords (grid : Grid α) : Prop where
  addresses : ∀ cell ∈ grid.cells.items, ∀ value ∈ cell.address, HoldsWord value
  cellExtent : IsWord grid.cells.extent
  vertexExtent : IsWord grid.vertices.extent
  references : IsWord (grid.cells.items.flatMap Cell.vertices).length

variable {grid : Grid α}

theorem mem_items_of_sortedItems {ι : Type} {table : Table ι} {item : ι} :
    item ∈ table.sortedItems ↔ item ∈ table.items :=
  (table.sorted_perm.map _).mem_iff

theorem length_flatMap_sortedItems {ι τ : Type} (table : Table ι) (f : ι → List τ) :
    (table.sortedItems.flatMap f).length = (table.items.flatMap f).length :=
  ((table.sorted_perm.map _).flatMap_right f).length_eq

theorem map_index_sortedItems {ι : Type} {indexOf : ι → Value} {table : Table ι}
    (wellKeyed : table.WellKeyed indexOf) :
    table.sortedItems.map indexOf = (table.sorted.map (·.1)).map .int := by
  simp only [Table.sortedItems, List.map_map]
  apply List.map_congr_left
  intro entry member
  exact wellKeyed.indexed entry.1 entry.2 (table.sorted_perm.mem_iff.mp member)

/-- The integers of a sound mesh's references are the keys that they name. -/
theorem integerKey?_of_sound (sound : grid.Sound (.held α)) {cell : Cell α}
    (member : cell ∈ grid.cells.sortedItems) {reference : Value}
    (referenceMember : reference ∈ cell.vertices) :
    reference.integerKey? = .ok (some (integerOf reference)) ∧
      integerOf reference ∈ grid.vertices.keys := by
  obtain ⟨key, used, known⟩ := sound.references cell (mem_items_of_sortedItems.mp member)
    reference referenceMember
  have same : integerOf reference = key := by
    rw [integerOf, Value.toInteger_of_integerKey? known]
  rw [same]
  exact ⟨known, used⟩

namespace Contents

theorem ofGrid_shows (sound : grid.Sound (.held α)) (fits : FitsWords grid)
    {name projection : String} (named : grid.name = .text name)
    (projected : grid.projection = .text projection) :
    (ofGrid name projection grid).Shows grid where
  name := named
  type := rfl
  coordinates := rfl
  parameterization := rfl
  projection := projected
  cellExtent := rfl
  vertexExtent := rfl
  vertexIndex := map_index_sortedItems sound.vertices
  points := rfl
  cellIndex := map_index_sortedItems sound.cells
  addresses := by
    rw [ofGrid, List.map_map]
    apply List.map_congr_left
    intro cell member
    have integers := fits.addresses cell (mem_items_of_sortedItems.mp member)
    obtain ⟨i, sameI, -⟩ := (integers cell.i (by simp [Cell.address])).exists_int
    obtain ⟨j, sameJ, -⟩ := (integers cell.j (by simp [Cell.address])).exists_int
    obtain ⟨k, sameK, -⟩ := (integers cell.k (by simp [Cell.address])).exists_int
    simp only [Function.comp_apply, Cell.address, sameI, sameJ, sameK]
    rfl
  areas := rfl
  references := by
    have lists := referenceLists_offsetsFrom []
      (grid.cells.sortedItems.map fun cell => cell.vertices.map integerOf)
    simp only [List.nil_append, List.length_nil, Nat.cast_zero] at lists
    simp only [ofGrid, lists]
    refine List.forall₂_map_right_iff.mpr (List.forall₂_same.mpr fun cell member => ?_)
    refine List.forall₂_map_right_iff.mpr (List.forall₂_same.mpr fun reference named => ?_)
    exact (integerKey?_of_sound sound member named).1

/-- Keys, extents and references of a sound mesh are what the format asks for. -/
theorem ofGrid_admitted (sound : grid.Sound (.held α)) (name : String) {projection : String}
    (projected : grid.projection = .text projection) :
    (ofGrid name projection grid).Admitted where
  projection := by
    intro planar
    have filled := sound.projection.mp planar
    rw [projected] at filled
    simpa [Value.isBlankOption, ofGrid] using filled
  points := by simp [ofGrid, Table.sortedItems]
  addresses := by simp [ofGrid, Table.sortedItems]
  areas := by simp [ofGrid, Table.sortedItems]
  vertexDistinct := (Table.keys_sorted_perm _).nodup_iff.mpr sound.vertices.distinct
  vertexNatural := fun key member =>
    sound.vertices.natural key ((Table.keys_sorted_perm _).mem_iff.mp member)
  cellDistinct := (Table.keys_sorted_perm _).nodup_iff.mpr sound.cells.distinct
  cellNatural := fun key member =>
    sound.cells.natural key ((Table.keys_sorted_perm _).mem_iff.mp member)
  cellExtent := ⟨sound.cells.extent_natural, fun key member =>
    sound.cells.lt_extent ((Table.keys_sorted_perm _).mem_iff.mp member)⟩
  vertexExtent := ⟨sound.vertices.extent_natural, fun key member =>
    sound.vertices.lt_extent ((Table.keys_sorted_perm _).mem_iff.mp member)⟩
  offsets := by simp [ofGrid, length_offsetsFrom, Table.sortedItems]
  cuts := cuts_offsetsFrom _
  references := by
    intro reference member
    obtain ⟨list, listMember, inList⟩ := List.mem_flatten.mp member
    obtain ⟨cell, cellMember, rfl⟩ := List.mem_map.mp listMember
    obtain ⟨value, valueMember, rfl⟩ := List.mem_map.mp inList
    exact (Table.keys_sorted_perm _).mem_iff.mpr
      (integerKey?_of_sound sound cellMember valueMember).2

theorem ofGrid_fits (sound : grid.Sound (.held α)) (fits : FitsWords grid)
    (name : String) {projection : String} (projected : grid.projection = .text projection) :
    (ofGrid name projection grid).Fits := by
  have admitted := ofGrid_admitted sound name projected
  have vertexIndex : ∀ n ∈ (ofGrid name projection grid).vertexIndex, IsWord n := by
    intro n member
    have natural := admitted.vertexNatural n member
    have below := admitted.vertexExtent.2 n member
    have extent := fits.vertexExtent.2
    exact ⟨by omega, Int.lt_trans below extent⟩
  refine ⟨fits.cellExtent, fits.vertexExtent, vertexIndex, ?_, ?_, ?_, ?_⟩
  · intro n member
    have natural := admitted.cellNatural n member
    have below := admitted.cellExtent.2 n member
    have extent := fits.cellExtent.2
    exact ⟨by omega, Int.lt_trans below extent⟩
  · intro n member
    obtain ⟨address, addressMember, inAddress⟩ := List.mem_flatMap.mp member
    obtain ⟨cell, cellMember, rfl⟩ := List.mem_map.mp addressMember
    have integers := fits.addresses cell (mem_items_of_sortedItems.mp cellMember)
    have stored : ∀ value ∈ cell.address, IsWord (integerOf value) := by
      intro value valueMember
      obtain ⟨n, rfl, word⟩ := (integers value valueMember).exists_int
      exact word
    simp only [List.mem_cons, List.not_mem_nil, or_false] at inAddress
    rcases inAddress with rfl | rfl | rfl <;> exact stored _ (by simp [Cell.address])
  · exact fun n member => vertexIndex n (admitted.references n member)
  · intro n member
    have bounds := admitted.cuts.bounds n member
    have counted := length_flatMap_sortedItems grid.cells Cell.vertices
    have length : (ofGrid name projection grid).references.length =
        (grid.cells.sortedItems.flatMap Cell.vertices).length := by
      simp [ofGrid, List.length_flatten, List.length_flatMap, Function.comp_def]
    have short := fits.references.2
    rw [length, counted] at bounds
    exact ⟨by omega, by omega⟩

/-! ### The mesh of contents in the order of their keys -/

/-- Indices stand in ascending order. -/
structure Ordered (contents : Contents α) : Prop where
  vertexIndex : contents.vertexIndex.Pairwise (· ≤ ·)
  cellIndex : contents.cellIndex.Pairwise (· ≤ ·)

theorem ofGrid_ordered (name projection : String) (grid : Grid α) :
    (ofGrid name projection grid).Ordered where
  vertexIndex := List.pairwise_map.mpr grid.vertices.pairwise_sorted
  cellIndex := List.pairwise_map.mpr grid.cells.pairwise_sorted

theorem Ordered.sortedItems_vertices {contents : Contents α} (ordered : contents.Ordered)
    (tabular : contents.Tabular) :
    contents.mesh.vertices.sortedItems = contents.vertexRows.map (·.2) := by
  have ascending := ordered.vertexIndex
  rw [← map_fst_vertexRows tabular.points, List.pairwise_map] at ascending
  rw [Table.sortedItems, Table.sorted_of_pairwise ascending]
  rfl

theorem Ordered.sortedItems_cells {contents : Contents α} (ordered : contents.Ordered)
    (admitted : contents.Admitted) :
    contents.mesh.cells.sortedItems = contents.cellRows.map (·.2) := by
  have ascending := ordered.cellIndex
  rw [← map_fst_cellRows admitted.addresses admitted.areas admitted.offsets,
    List.pairwise_map] at ascending
  rw [Table.sortedItems, Table.sorted_of_pairwise ascending]
  rfl

/-- Contents in the order of their keys are shown by the mesh that they describe. -/
theorem Ordered.shows {contents : Contents α} (ordered : contents.Ordered)
    (admitted : contents.Admitted) : contents.Shows contents.mesh := by
  have vertices := ordered.sortedItems_vertices admitted.toTabular
  have cells := ordered.sortedItems_cells admitted
  obtain ⟨cellKeys, addresses, areas, lists⟩ :=
    columns_cellRows admitted.addresses admitted.areas admitted.offsets
  refine ⟨rfl, rfl, rfl, rfl, rfl, rfl, rfl, ?_, ?_, ?_, ?_, ?_, ?_⟩
  · rw [vertices, ← map_fst_vertexRows admitted.points, vertexRows]
    simp only [List.map_map]
    rfl
  · have items := items_vertices_mesh admitted.points
    rw [vertices]
    exact items
  · rw [cells, ← cellKeys, cellRows]
    simp only [List.map_map]
    rfl
  · rw [cells, List.map_map]
    exact addresses
  · rw [cells, List.map_map]
    exact areas
  · rw [cells, ← List.forall₂_map_left_iff, List.map_map]
    refine lists ▸ List.forall₂_map_left_iff.mpr (List.forall₂_same.mpr fun list _ => ?_)
    exact List.forall₂_map_left_iff.mpr (List.forall₂_same.mpr fun key _ => rfl)

/-- The mesh of admitted contents is as sound as meshes are that operations reach. -/
theorem Admitted.sound {contents : Contents α} (admitted : contents.Admitted)
    (planar : contents.coordinates = .xy ↔ contents.projection ≠ "") :
    contents.mesh.Sound (.held α) := by
  have vertexKeys := map_fst_vertexRows admitted.points
  have cellKeys := map_fst_cellRows admitted.addresses admitted.areas admitted.offsets
  have lists := flatMap_vertices_cellRows admitted.addresses admitted.areas admitted.offsets
    admitted.cuts
  refine ⟨?_, ?_, fun cell member reference named => ?_, ?_⟩
  · refine Table.wellKeyed_rows (vertexKeys ▸ admitted.vertexDistinct)
      (vertexKeys ▸ admitted.vertexNatural) (fun key vertex member => ?_)
      admitted.vertexExtent.1 (vertexKeys ▸ admitted.vertexExtent.2)
    obtain ⟨row, _, same⟩ := List.mem_map.mp member
    cases same
    rfl
  · refine Table.wellKeyed_rows (cellKeys ▸ admitted.cellDistinct)
      (cellKeys ▸ admitted.cellNatural) (fun key cell member => ?_)
      admitted.cellExtent.1 (cellKeys ▸ admitted.cellExtent.2)
    obtain ⟨row, _, same⟩ := List.mem_map.mp member
    cases same
    rfl
  · have listed : reference ∈ contents.references.map Value.int :=
      lists ▸ List.mem_flatMap.mpr ⟨cell, member, named⟩
    obtain ⟨n, nMember, rfl⟩ := List.mem_map.mp listed
    refine (Mesh.names_int _ n).mpr ?_
    have used := admitted.references n nMember
    rw [← vertexKeys] at used
    exact used
  · show contents.coordinates = .xy ↔ (Value.text contents.projection).isBlankOption = false
    rw [planar]
    simp [Value.isBlankOption]

end Contents

/-! ### Agreement -/

/-- A cell that was read agrees with one that was written: it names the same vertices in the
same order, by their indices. -/
structure CellAgrees (read written : Cell α) : Prop where
  index : read.index = written.index
  address : read.address = written.address
  area : read.area = written.area
  vertices : List.Forall₂ (fun key reference =>
    ∃ n, key = .int n ∧ reference.integerKey? = .ok (some n)) read.vertices written.vertices

/-- A mesh that was read agrees with one that was written, in the order of the keys. -/
structure Agrees (read written : Grid α) : Prop where
  name : read.name = written.name
  type : read.type = written.type
  coordinates : read.coordinates = written.coordinates
  parameterization : read.parameterization = written.parameterization
  projection : read.projection = written.projection
  cellExtent : read.cells.extent = written.cells.extent
  vertexExtent : read.vertices.extent = written.vertices.extent
  vertices : read.vertices.sortedItems = written.vertices.sortedItems
  cells : List.Forall₂ CellAgrees read.cells.sortedItems written.cells.sortedItems

private theorem forall₂_of_map_eq {ι τ : Type} {f : ι → τ} {first second : List ι}
    (same : first.map f = second.map f) : List.Forall₂ (fun x y => f x = f y) first second :=
  List.forall₂_map_left_iff.mp (List.forall₂_map_right_iff.mp
    (same ▸ List.forall₂_same.mpr fun _ _ => rfl))

/-- The mesh of ordered contents agrees with every mesh that shows them. -/
theorem Contents.Shows.agrees {contents : Contents α} (shows : contents.Shows grid)
    (admitted : contents.Admitted) (ordered : contents.Ordered) :
    Agrees contents.mesh grid := by
  have own := ordered.shows admitted
  have vertices : List.Forall₂ (· = ·) contents.mesh.vertices.sortedItems
      grid.vertices.sortedItems := by
    refine (forall₂_of_map_eq (own.vertexIndex.trans shows.vertexIndex.symm)).mp ?_
      (forall₂_of_map_eq (own.points.trans shows.points.symm))
    rintro ⟨x, y, index⟩ ⟨otherX, otherY, otherIndex⟩ sameIndex samePoint
    simp only [Vertex.point, Prod.mk.injEq] at sameIndex samePoint
    obtain ⟨rfl, rfl⟩ := samePoint
    rw [sameIndex]
  have references : List.Forall₂ (fun list (written : Cell α) => List.Forall₂ (fun key reference =>
      ∃ n, key = .int n ∧ reference.integerKey? = .ok (some n)) list written.vertices)
      (contents.cellRows.map (·.2.vertices)) grid.cells.sortedItems := by
    rw [map_vertices_cellRows admitted.addresses admitted.areas admitted.offsets]
    refine List.forall₂_map_left_iff.mpr (shows.references.flip.imp fun list written keys => ?_)
    exact List.forall₂_map_left_iff.mpr (keys.flip.imp fun n _ key => ⟨n, rfl, key⟩)
  have named : List.Forall₂ (fun read written : Cell α => List.Forall₂ (fun key reference =>
      ∃ n, key = .int n ∧ reference.integerKey? = .ok (some n)) read.vertices written.vertices)
      contents.mesh.cells.sortedItems grid.cells.sortedItems := by
    rw [ordered.sortedItems_cells admitted]
    exact List.forall₂_map_left_iff.mpr (List.forall₂_map_left_iff.mp references)
  have areas := (forall₂_of_map_eq (own.areas.trans shows.areas.symm)).mp
    (fun _ _ area rest => And.intro area rest) named
  have addresses := (forall₂_of_map_eq (own.addresses.trans shows.addresses.symm)).mp
    (fun _ _ address rest => And.intro address rest) areas
  exact
    { name := own.name.trans shows.name.symm
      type := own.type.trans shows.type.symm
      coordinates := own.coordinates.trans shows.coordinates.symm
      parameterization := own.parameterization.trans shows.parameterization.symm
      projection := own.projection.trans shows.projection.symm
      cellExtent := own.cellExtent.trans shows.cellExtent.symm
      vertexExtent := own.vertexExtent.trans shows.vertexExtent.symm
      vertices := List.forall₂_eq_eq_eq ▸ vertices
      cells := (forall₂_of_map_eq (own.cellIndex.trans shows.cellIndex.symm)).mp
        (fun _ _ index rest => ⟨index, rest.1, rest.2.1, rest.2.2⟩) addresses }

/-! ### The round trip -/

variable [Scalar α] {ref : Ref (SharedGrid α)} {space : MeshSpace α}

/-- Every mesh that operations reach is written as a dataset, read back as a mesh that agrees
with it, and then written as the same dataset again. -/
theorem decode_encode_agrees (reached : MeshSpace.Reached ref space) (group : String)
    {name projection : String} (named : (space.view ref).name = .text name)
    (projected : (space.view ref).projection = .text projection)
    (fits : FitsWords (space.view ref)) :
    ∃ dataset read, encode (space.view ref) group = .ok dataset ∧
      decode .dataset dataset group = .ok read ∧ Agrees read (space.view ref) ∧
      encode read group = .ok dataset := by
  have sound := reached.keeps.view
  let contents := Contents.ofGrid name projection (space.view ref)
  have shows : contents.Shows (space.view ref) :=
    Contents.ofGrid_shows sound fits named projected
  have admitted : contents.Admitted := Contents.ofGrid_admitted sound name projected
  have words : contents.Fits := Contents.ofGrid_fits sound fits name projected
  have ordered : contents.Ordered := Contents.ofGrid_ordered name projection _
  have planar : contents.coordinates = .xy ↔ contents.projection ≠ "" := by
    have consistent := sound.projection
    rw [projected] at consistent
    change (space.view ref).coordinates = .xy ↔ projection ≠ ""
    simpa [Value.isBlankOption] using consistent
  have absent : contents.coordinates = .lonLat → contents.projection = "" := by
    intro spherical
    by_contra filled
    rw [planar.mpr filled] at spherical
    cases spherical
  have typed := wellTyped_dataset admitted.toTabular admitted.offsets words group
  have stores := stores_dataset admitted.toTabular admitted.offsets absent group
  have last := (words.offsets _ (List.mem_of_getLast? admitted.cuts.last)).2
  have steps : StepsFit contents.offsets := admitted.cuts.stepsFit (by omega)
  have readable := (Contents.readable_iff_admitted steps).mpr admitted
  exact ⟨contents.dataset group, contents.mesh, encode_eq_ok shows words admitted.cuts planar group,
    (decode_eq_ok_iff typed _).mpr ⟨contents, stores, readable, rfl⟩,
    shows.agrees admitted ordered,
    encode_eq_ok (ordered.shows admitted) words admitted.cuts planar group⟩

/-- A triangle that was added after a vertex that it does not use makes the round trip. -/
theorem triangle_round_trip : ∃ (space : MeshSpace Rat) (dataset : Dataset Rat) (read : Grid Rat),
    MeshSpace.Reached ⟨0⟩ space ∧ (space.view ⟨0⟩).vertices.size = 4 ∧
      encode (space.view ⟨0⟩) "g" = .ok dataset ∧ decode .dataset dataset "g" = .ok read ∧
      Agrees read (space.view ⟨0⟩) := by
  have created : MeshSpace.Reached (α := Rat) ⟨0⟩ { grids := ⟨#[{}]⟩ } :=
    .created {} (rfl : Mesh.create (.text "") .generic .lonLat .onCells (.text "") = .ok {}) rfl
  have made := created.performed (.makeVertex ⟨5, 5, .int 7⟩) trivial
  have lone := made.performed (.addVertex ⟨0⟩) (Nat.zero_lt_one : 0 < 1)
  have filled := lone.performed
    (.addPolygon [(0, 0), (1, 0), (0, 1)] { i := .int 2, area := 3 }) trivial
  obtain ⟨dataset, read, written, decoded, agrees, _⟩ := decode_encode_agrees filled "g" rfl rfl
    ⟨by decide +kernel, by decide +kernel, by decide +kernel, by decide +kernel⟩
  exact ⟨_, dataset, read, filled, by decide +kernel, written, decoded, agrees⟩

end Regrid.GridTables
