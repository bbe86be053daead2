import Regrid.Proofs.Store.Contents

/-!
Contract: a mesh is written as the dataset of the contents that it shows.

Owns:
- when a mesh shows contents, in the order of its keys;
- the dataset of given contents, and the writing of a mesh as this dataset;
- that the dataset stores the contents.

Does not own: the reading of a dataset.
-/

namespace Regrid

open Attempt

/-! ### Integers in columns -/

/-- An integer fits 32 bits. -/
def IsWord (n : Int) : Prop := -0x80000000 ≤ n ∧ n < 0x80000000

instance : DecidablePred IsWord := fun _ => inferInstanceAs (Decidable (_ ∧ _))

theorem IsWord.fit {n : Int} (word : IsWord n) : IntegerType.int32.fit n = .ok n := if_pos word

/-- A value that equals an integer as a key is stored as that integer. -/
theorem IsWord.ofValue {n : Int} (word : IsWord n) {value : Value}
    (key : value.integerKey? = .ok (some n)) : IntegerType.int32.ofValue value = .ok n := by
  obtain ⟨least, most⟩ := word
  have read := Value.toInteger_of_integerKey? key
  cases value with
  | int m =>
      cases key
      exact IsWord.fit ⟨least, most⟩
  | bool b =>
      cases b <;> cases key <;> rfl
  | float x =>
      have limit : (IntegerType.int64.limit : Int) = 0x8000000000000000 := rfl
      have fits : IntegerType.int64.fit n = .ok n := by
        rw [IntegerType.fit, limit, if_pos ⟨by omega, by omega⟩]
      have wrapped : IntegerType.int32.wrap n = n := Int.bmod_eq_of_le least most
      simp only [IntegerType.ofValue, read, bind, Except.bind, fits, wrapped, pure, Except.pure]
  | null => cases key
  | text s => cases key
  | moment m => cases key
  | list items => cases key
  | map entries => cases key

theorem Column.ofValues_eq_ok {α : Type} {values : List Value} {integers : List Int}
    (each : List.Forall₂ (fun value n => IntegerType.int32.ofValue value = .ok n) values integers) :
    (Column.ofValues .int32 values : Except Error (Column α)) =
      .ok (.integers .int32 integers) := by
  have read := (mapM_eq_ok_iff ..).mpr each
  rw [Column.ofValues, read]
  rfl

/-! ### Names of arrays -/

namespace Schema

theorem Part.fullName_inj (group : String) (first second : Part) :
    first.fullName group = second.fullName group ↔ first = second := by
  have names : first.name = second.name ↔ first = second := by
    cases first <;> cases second <;> decide
  simp only [Part.fullName, String.append_right_inj, names]

theorem Part.fullName_ne_infoVariable (group : String) (name : Part) :
    name.fullName group ≠ infoVariable group := by
  rw [Part.fullName, infoVariable, String.append_assoc, ne_eq, String.append_right_inj]
  cases name <;> decide

end Schema

namespace GridTables

open Regrid.Schema

variable {α : Type}

namespace Contents

/-! ### Datasets of contents -/

/-- The stored integers fit 32 bits. -/
structure Fits (contents : Contents α) : Prop where
  cellExtent : IsWord contents.cellExtent
  vertexExtent : IsWord contents.vertexExtent
  vertexIndex : ∀ n ∈ contents.vertexIndex, IsWord n
  cellIndex : ∀ n ∈ contents.cellIndex, IsWord n
  addresses : ∀ n ∈ contents.addresses.flatMap fun address =>
    [address.1, address.2.1, address.2.2], IsWord n
  references : ∀ n ∈ contents.references, IsWord n
  offsets : ∀ n ∈ contents.offsets, IsWord n

/-- The attributes that are written for the contents, apart from the last comment. -/
def tags (contents : Contents α) : List (String × Attribute) :=
  let name := if contents.name.isEmpty then [] else [("name", Attribute.text contents.name)]
  let projection := match contents.coordinates with
    | .xy => InfoKey.projection.entries (.text contents.projection)
    | .lonLat => []
  [("version", Attribute.short version)] ++ name ++
    InfoKey.type.entries (.text (tagText contents.type)) ++
    InfoKey.coordinates.entries (.text (tagText contents.coordinates)) ++
    InfoKey.parameterization.entries (.text (tagText contents.parameterization)) ++ projection ++
    InfoKey.cellExtent.entries (.short contents.cellExtent) ++
    InfoKey.vertexExtent.entries (.short contents.vertexExtent)

/-- The attributes that are written for the contents. -/
def attributes (contents : Contents α) (group : String) : List (String × Attribute) :=
  contents.tags ++ [(vertexDimension group ++ ".comment", wrapped realizedComment)]

/-- The shape and the elements of each array that is written for the contents. -/
def array (contents : Contents α) : Part → List Nat × Column α
  | .vertexIndex => ([contents.vertexIndex.length], .integers .int32 contents.vertexIndex)
  | .vertexPoints =>
      ([contents.vertexIndex.length, 2],
        .reals (contents.points.flatMap fun point => [point.1, point.2]))
  | .cellIndex => ([contents.cellIndex.length], .integers .int32 contents.cellIndex)
  | .cellAddress =>
      ([contents.cellIndex.length, 3], .integers .int32
        (contents.addresses.flatMap fun address => [address.1, address.2.1, address.2.2]))
  | .cellArea => ([contents.cellIndex.length], .reals contents.areas)
  | .references => ([contents.references.length], .integers .int32 contents.references)
  | .offsets => ([contents.cellIndex.length + 1], .integers .int32 contents.offsets)

/-- The variables that are written for the contents. -/
def dataset (contents : Contents α) (group : String) : Dataset α where
  entries := (infoVariable group,
      ⟨["one"], [1], .integers .int32 [0], contents.attributes group⟩) ::
    parts.map fun part => (part.fullName group,
      ⟨part.dimensions group, (contents.array part).1, (contents.array part).2,
        [("comment", wrapped part.comment)]⟩)

/-- A mesh in the order of its keys has the attributes and tables that the contents say. Its
cells may name a vertex by any value that equals its index as a key. -/
structure Shows (contents : Contents α) (grid : Grid α) : Prop where
  name : grid.name = .text contents.name
  type : grid.type = contents.type
  coordinates : grid.coordinates = contents.coordinates
  parameterization : grid.parameterization = contents.parameterization
  projection : grid.projection = .text contents.projection
  cellExtent : grid.cells.extent = contents.cellExtent
  vertexExtent : grid.vertices.extent = contents.vertexExtent
  vertexIndex : grid.vertices.sortedItems.map Vertex.index = contents.vertexIndex.map .int
  points : grid.vertices.sortedItems.map Vertex.point = contents.points
  cellIndex : grid.cells.sortedItems.map Cell.index = contents.cellIndex.map .int
  addresses : grid.cells.sortedItems.map Cell.address = contents.addresses.map
    (fun address => [.int address.1, .int address.2.1, .int address.2.2])
  areas : grid.cells.sortedItems.map Cell.area = contents.areas
  references : List.Forall₂ (fun cell list => List.Forall₂
      (fun reference key => reference.integerKey? = .ok (some key)) cell.vertices list)
    grid.cells.sortedItems (referenceLists contents.references contents.offsets)

end Contents

/-! ### Writing -/

theorem ofValues_int {integers : List Int} (fits : ∀ n ∈ integers, IsWord n) :
    (Column.ofValues .int32 (integers.map .int) : Except Error (Column α)) =
      .ok (.integers .int32 integers) := by
  refine Column.ofValues_eq_ok (List.forall₂_map_left_iff.mpr (List.forall₂_same.mpr ?_))
  intro n member
  exact (fits n member).fit

private theorem bind_ofValues {τ : Type} {items : List Value} {integers : List Int}
    (done : (Column.ofValues .int32 items : Except Error (Column α)) =
      .ok (.integers .int32 integers)) (shape : τ) :
    (do return (shape, ← (Column.ofValues .int32 items : Except Error (Column α)))) =
      (.ok (shape, .integers .int32 integers) : Except Error (τ × Column α)) := by
  rw [done]
  rfl

variable {contents : Contents α} {grid : Grid α}

namespace Contents.Shows

theorem length_vertices (shows : contents.Shows grid) :
    grid.vertices.sortedItems.length = contents.vertexIndex.length := by
  simpa only [List.length_map] using congrArg List.length shows.vertexIndex

theorem length_cells (shows : contents.Shows grid) :
    grid.cells.sortedItems.length = contents.cellIndex.length := by
  simpa only [List.length_map] using congrArg List.length shows.cellIndex

theorem flatMap_points (shows : contents.Shows grid) :
    grid.vertices.sortedItems.flatMap (fun vertex => [vertex.x, vertex.y]) =
      contents.points.flatMap fun point => [point.1, point.2] := by
  rw [← shows.points, List.flatMap_map]
  rfl

theorem flatMap_address (shows : contents.Shows grid) :
    grid.cells.sortedItems.flatMap Cell.address =
      (contents.addresses.flatMap fun address =>
        [address.1, address.2.1, address.2.2]).map .int := by
  rw [List.flatMap_def, shows.addresses, List.map_flatMap, List.flatMap_def]
  rfl

/-- The references of all cells, in the order of the cells. -/
theorem flatMap_vertices (shows : contents.Shows grid)
    (cuts : Cuts contents.references.length contents.offsets) :
    List.Forall₂ (fun reference key => reference.integerKey? = .ok (some key))
      (grid.cells.sortedItems.flatMap Cell.vertices) contents.references := by
  have lists := List.rel_flatten (List.forall₂_map_left_iff.mpr shows.references)
  rwa [cuts.flatten, ← List.flatMap_def] at lists

theorem offsets (shows : contents.Shows grid)
    (cuts : Cuts contents.references.length contents.offsets) :
    offsetsFrom 0 (grid.cells.sortedItems.map fun cell => cell.vertices.length) =
      contents.offsets := by
  have lengths : List.Forall₂ (· = ·)
      (grid.cells.sortedItems.map fun cell => cell.vertices.length)
      ((referenceLists contents.references contents.offsets).map List.length) :=
    List.forall₂_map_left_iff.mpr (List.forall₂_map_right_iff.mpr
      (shows.references.imp fun _ _ => List.Forall₂.length_eq))
  rw [List.forall₂_eq_eq_eq] at lengths
  rw [lengths, ← cuts.offsets_eq]

end Contents.Shows

/-- Each array of a mesh is the one that is written for the contents that the mesh shows. -/
theorem part_eq_ok (shows : contents.Shows grid) (fits : contents.Fits)
    (cuts : Cuts contents.references.length contents.offsets) (name : Part) :
    part grid name = .ok (contents.array name) := by
  cases name with
  | vertexIndex =>
      have done := ofValues_int (α := α) fits.vertexIndex
      rw [← shows.vertexIndex] at done
      rw [part, Contents.array, ← shows.length_vertices]
      exact bind_ofValues done _
  | vertexPoints =>
      rw [part, Contents.array, ← shows.length_vertices, ← shows.flatMap_points]
  | cellIndex =>
      have done := ofValues_int (α := α) fits.cellIndex
      rw [← shows.cellIndex] at done
      rw [part, Contents.array, ← shows.length_cells]
      exact bind_ofValues done _
  | cellAddress =>
      have done := ofValues_int (α := α) fits.addresses
      rw [← shows.flatMap_address] at done
      rw [part, Contents.array, ← shows.length_cells]
      exact bind_ofValues done _
  | cellArea =>
      rw [part, Contents.array, ← shows.length_cells, ← shows.areas]
  | references =>
      have listed := shows.flatMap_vertices cuts
      have done : (Column.ofValues .int32 (grid.cells.sortedItems.flatMap Cell.vertices) :
          Except Error (Column α)) = .ok (.integers .int32 contents.references) := by
        refine Column.ofValues_eq_ok (List.forall₂_iff_zip.mpr ⟨listed.length_eq, ?_⟩)
        intro reference n member
        have word := fits.references n (List.of_mem_zip member).2
        exact word.ofValue (List.forall₂_zip listed member)
      rw [part, Contents.array, ← listed.length_eq]
      exact bind_ofValues done _
  | offsets =>
      have done := ofValues_int (α := α) fits.offsets
      rw [part, Contents.array, ← shows.length_cells, shows.offsets cuts]
      exact bind_ofValues done _

theorem arrays_eq_ok [Scalar α] (shows : contents.Shows grid) (fits : contents.Fits)
    (cuts : Cuts contents.references.length contents.offsets) :
    arrays grid = .ok (parts.map fun name => (name, contents.array name)) := by
  simp only [arrays, List.mapM_cons, List.mapM_nil, part_eq_ok shows fits cuts]
  rfl

theorem infoAttributes_eq_ok (shows : contents.Shows grid) (fits : contents.Fits)
    (group : String) : infoAttributes grid group = .ok (contents.attributes group) := by
  simp only [infoAttributes, shows.cellExtent, shows.vertexExtent, fits.cellExtent.fit,
    fits.vertexExtent.fit, shows.name, shows.type, shows.coordinates, shows.parameterization,
    shows.projection]
  rfl

theorem Contents.Shows.validate_eq_ok (shows : contents.Shows grid)
    (planar : contents.coordinates = .xy ↔ contents.projection ≠ "") :
    grid.validate = .ok () := by
  rw [Mesh.validate_eq_ok_iff, shows.coordinates, shows.projection, planar]
  simp [Value.isBlankOption]

/-- A mesh is written as the dataset of the contents that it shows. -/
theorem encode_eq_ok [Scalar α] (shows : contents.Shows grid) (fits : contents.Fits)
    (cuts : Cuts contents.references.length contents.offsets)
    (planar : contents.coordinates = .xy ↔ contents.projection ≠ "") (group : String) :
    encode grid group = .ok (contents.dataset group) := by
  simp only [encode, shows.validate_eq_ok planar, arrays_eq_ok shows fits cuts,
    infoAttributes_eq_ok shows fits]
  rfl

/-! ### What a written dataset stores -/

theorem get?_dataset_info (contents : Contents α) (group : String) :
    (contents.dataset group).get? (infoVariable group) =
      some ⟨["one"], [1], .integers .int32 [0], contents.attributes group⟩ :=
  List.lookup_cons_self

theorem get?_dataset_part (contents : Contents α) (group : String) (name : Part) :
    (contents.dataset group).get? (name.fullName group) =
      some ⟨name.dimensions group, (contents.array name).1, (contents.array name).2,
        [("comment", wrapped name.comment)]⟩ := by
  have other := beq_eq_false_iff_ne.mpr (name.fullName_ne_infoVariable group)
  have same : ∀ candidate : Part, (name.fullName group == candidate.fullName group) =
      decide (name = candidate) := by
    intro candidate
    rw [Bool.eq_iff_iff, beq_iff_eq, decide_eq_true_iff, Part.fullName_inj]
  simp only [Dataset.get?, Contents.dataset, List.lookup_cons, other, parts, List.map_cons,
    List.map_nil, same]
  cases name <;> rfl

namespace Contents

/-- The last comment stands under a key that is longer than those of the tags. -/
theorem get?_attributes (contents : Contents α) (group : String) {key : String}
    (short : key.length < 22) :
    (contents.attributes group).lookup key = contents.tags.lookup key := by
  have different : key ≠ vertexDimension group ++ ".comment" := by
    rintro rfl
    simp only [vertexDimension, String.length_append] at short
    have first : ".vertices.num_realized".length = 22 := by decide
    omega
  rw [attributes, List.lookup_append, List.lookup_cons, beq_eq_false_iff_ne.mpr different,
    List.lookup_nil, Option.or_none]

theorem lookup_tags (contents : Contents α) :
    contents.tags.lookup "version" = some (.short version) ∧
      contents.tags.lookup InfoKey.type.name = some (.text (tagText contents.type)) ∧
      contents.tags.lookup InfoKey.coordinates.name =
        some (.text (tagText contents.coordinates)) ∧
      contents.tags.lookup InfoKey.parameterization.name =
        some (.text (tagText contents.parameterization)) ∧
      contents.tags.lookup InfoKey.cellExtent.name = some (.short contents.cellExtent) ∧
      contents.tags.lookup InfoKey.vertexExtent.name = some (.short contents.vertexExtent) ∧
      contents.tags.lookup InfoKey.projection.name = (match contents.coordinates with
        | .xy => some (.text contents.projection)
        | .lonLat => none) ∧
      contents.tags.lookup "name" =
        if contents.name.isEmpty then none else some (.text contents.name) := by
  unfold tags
  cases contents.coordinates <;> by_cases empty : contents.name.isEmpty
  all_goals
    simp only [empty, if_true, if_false, Bool.false_eq_true]
    exact ⟨rfl, rfl, rfl, rfl, rfl, rfl, rfl, rfl⟩

theorem storesInfo (contents : Contents α) (group : String)
    (absent : contents.coordinates = .lonLat → contents.projection = "") :
    StoresInfo .dataset (Variable.mk (α := α) ["one"] [1] (.integers .int32 [0])
      (contents.attributes group)) contents := by
  obtain ⟨version, type, coordinates, parameterization, cellExtent, vertexExtent, projection,
    name⟩ := contents.lookup_tags
  have found : ∀ {key : String}, key.length < 22 → ∀ {stored : Attribute},
      contents.tags.lookup key = some stored →
      (contents.attributes group).lookup key = some stored :=
    fun short _ present => (contents.get?_attributes group short).trans present
  refine ⟨⟨1, le_rfl, _, found (by decide) version, rfl⟩, ?_, ?_, ?_, ?_, ?_, ?_, absent, ?_, ?_⟩
  · exact ⟨_, ⟨_, found (by decide) type, rfl⟩, by cases contents.type <;> rfl⟩
  · exact ⟨_, ⟨_, found (by decide) coordinates, rfl⟩, by cases contents.coordinates <;> rfl⟩
  · exact ⟨_, ⟨_, found (by decide) parameterization, rfl⟩,
      by cases contents.parameterization <;> rfl⟩
  · exact ⟨_, found (by decide) cellExtent, rfl⟩
  · exact ⟨_, found (by decide) vertexExtent, rfl⟩
  · intro planar
    rw [planar] at projection
    exact ⟨_, found (by decide) projection, rfl⟩
  · intro stored present
    rw [Variable.get?, get?_attributes _ _ (by decide), name] at present
    split at present
    · cases present
    · cases present
      rfl
  · intro none
    rw [Variable.get?, get?_attributes _ _ (by decide), name] at none
    split at none
    next empty => exact String.isEmpty_iff.mp empty
    next => cases none

end Contents

theorem pairs_flatMap {β : Type} (points : List (β × β)) :
    pairs (points.flatMap fun point => [point.1, point.2]) = points := by
  induction points with
  | nil => rfl
  | cons point rest inductionHypothesis => simp [pairs, inductionHypothesis]

theorem triples_flatMap {β : Type} (rows : List (β × β × β)) :
    triples (rows.flatMap fun row => [row.1, row.2.1, row.2.2]) = rows := by
  induction rows with
  | nil => rfl
  | cons row rest inductionHypothesis => simp [triples, inductionHypothesis]

namespace Contents.Tabular

/-- Every array has as many elements as its shape says. -/
theorem rectangular (tabular : contents.Tabular)
    (offsets : contents.offsets.length = contents.cellIndex.length + 1) (name : Part) :
    Tensor.volume (contents.array name).1 = (contents.array name).2.length := by
  have points := tabular.points
  have addresses := tabular.addresses
  have areas := tabular.areas
  cases name <;> simp [Contents.array, Tensor.volume, Column.length, List.length_flatMap] <;> omega

theorem hasColumns (tabular : contents.Tabular)
    (offsets : contents.offsets.length = contents.cellIndex.length + 1) (group : String)
    (name : Part) {rows width : Nat} (shape : (contents.array name).1 = [rows, width])
    (wide : width ≠ 0) :
    HasColumns width (contents.dataset group) (name.fullName group) rows
      (contents.array name).2 := by
  have length := tabular.rectangular offsets name
  rw [shape] at length
  refine ⟨_, get?_dataset_part contents group name, rfl, ?_⟩
  by_cases none : rows = 0
  · left
    exact ⟨by rw [← length, none]; simp [Tensor.volume], none⟩
  · right
    refine ⟨?_, shape⟩
    rw [← length]
    simp [Tensor.volume, none, wide]

end Contents.Tabular

/-- A written dataset stores the contents. -/
theorem stores_dataset [Scalar α] (tabular : contents.Tabular)
    (offsets : contents.offsets.length = contents.cellIndex.length + 1)
    (absent : contents.coordinates = .lonLat → contents.projection = "") (group : String) :
    Stores .dataset (contents.dataset group) group contents := by
  have vector : ∀ name : Part, (contents.array name).1.length = 1 →
      HasVector (contents.dataset group) (name.fullName group) (contents.array name).2 :=
    fun name shape => ⟨_, get?_dataset_part contents group name, shape, rfl⟩
  exact
    { info := ⟨_, get?_dataset_info contents group, contents.storesInfo group absent⟩
      vertexIndex := ⟨_, vector .vertexIndex rfl, rfl⟩
      points := ⟨_, _, tabular.hasColumns offsets group .vertexPoints rfl (by decide),
        pairs_flatMap _⟩
      cellIndex := ⟨_, vector .cellIndex rfl, rfl⟩
      addresses := ⟨_, _, tabular.hasColumns offsets group .cellAddress rfl (by decide),
        triples_flatMap _⟩
      areas := ⟨_, vector .cellArea rfl, rfl⟩
      references := ⟨_, vector .references rfl, rfl⟩
      offsets := ⟨_, vector .offsets rfl, rfl⟩ }

/-- A written dataset has the types of the layout. -/
theorem wellTyped_dataset (tabular : contents.Tabular)
    (offsets : contents.offsets.length = contents.cellIndex.length + 1) (fits : contents.Fits)
    (group : String) : WellTyped (contents.dataset group) group := by
  obtain ⟨version, type, coordinates, parameterization, cellExtent, vertexExtent, projection, -⟩ :=
    contents.lookup_tags
  constructor
  · intro name var found
    rw [get?_dataset_part] at found
    cases found
    exact tabular.rectangular offsets name
  · intro name member var found
    rw [get?_dataset_part] at found
    cases found
    simp only [List.mem_cons, List.not_mem_nil, or_false] at member
    rcases member with rfl | rfl | rfl | rfl | rfl
    · exact ⟨_, _, rfl, fits.vertexIndex⟩
    · exact ⟨_, _, rfl, fits.cellIndex⟩
    · exact ⟨_, _, rfl, fits.addresses⟩
    · exact ⟨_, _, rfl, fits.references⟩
    · exact ⟨_, _, rfl, fits.offsets⟩
  · intro info found key member stored present
    rw [get?_dataset_info] at found
    cases found
    simp only [List.mem_cons, List.not_mem_nil, or_false] at member
    rcases member with rfl | rfl | rfl <;>
      rw [Variable.get?, contents.get?_attributes group (by decide)] at present
    · cases version.symm.trans present
      exact ⟨_, rfl⟩
    · cases cellExtent.symm.trans present
      exact ⟨_, rfl⟩
    · cases vertexExtent.symm.trans present
      exact ⟨_, rfl⟩
  · intro info found key member stored present
    rw [get?_dataset_info] at found
    cases found
    simp only [List.mem_cons, List.not_mem_nil, or_false] at member
    rcases member with rfl | rfl | rfl | rfl <;>
      rw [Variable.get?, contents.get?_attributes group (by decide)] at present
    · cases type.symm.trans present
      exact ⟨_, rfl⟩
    · cases coordinates.symm.trans present
      exact ⟨_, rfl⟩
    · cases parameterization.symm.trans present
      exact ⟨_, rfl⟩
    · have stored := projection.symm.trans present
      split at stored <;> cases stored
      exact ⟨_, rfl⟩

end GridTables

end Regrid
