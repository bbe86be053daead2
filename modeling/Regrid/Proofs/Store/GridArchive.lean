import Regrid.Proofs.Store.Layout
import Regrid.Proofs.Store.RoundTrip

/-!
Contract: a mesh is written to a file and read from it, and what else the file holds stays.

Owns:
- the dimensions and variables of contents in a file, before and after writing;
- defining and writing a mesh in a file in which its names are free;
- reading a mesh from a file that holds it.

Does not own: files of several meshes.
-/

namespace Regrid

open Attempt StoredName Schema

namespace GridTables

variable {α : Type}

namespace Contents

/-! ### What a file holds -/

/-- The sizes of the dimensions that belong to the contents, by what follows the group. -/
def counts (contents : Contents α) : List (String × Nat) :=
  [("vertices.num_realized", contents.vertexIndex.length),
    ("cells.num_realized", contents.cellIndex.length),
    ("cells.num_realized_plus1", contents.cellIndex.length + 1),
    ("cells.num_vertex_refs", contents.references.length)]

/-- The dimensions that belong to the contents in a file. -/
def ownSizes (contents : Contents α) (group : String) : List (String × Nat) :=
  contents.counts.map fun count => (qualified group count.1, count.2)

/-- The dimensions of the contents in a file, those that all groups share included. -/
def sizes (contents : Contents α) (group : String) : List (String × Nat) :=
  sharedSizes ++ contents.ownSizes group

theorem mem_sizes {contents : Contents α} {group : String} {entry : String × Nat} :
    entry ∈ contents.sizes group ↔ entry = ("one", 1) ∨ entry = ("two", 2) ∨
      entry = ("three", 3) ∨ entry ∈ contents.ownSizes group := by
  simp [sizes, sharedSizes]

theorem under_ownSizes (contents : Contents α) (group : String) :
    Under dimensionSuffixes group (contents.ownSizes group) := by
  intro entry member
  obtain ⟨count, listed, rfl⟩ := List.mem_map.mp member
  have suffixes : ∀ count ∈ contents.counts, count.1 ∈ dimensionSuffixes := by
    simp [counts, dimensionSuffixes]
  exact ⟨count.1, suffixes count listed, rfl⟩

theorem kept_ownSizes (contents : Contents α) {group : String}
    (keeps : KeepsNames group gridSuffixes) : ∀ entry ∈ contents.ownSizes group, Kept entry.1 := by
  intro entry member
  obtain ⟨count, listed, rfl⟩ := List.mem_map.mp member
  have suffixes : ∀ count ∈ contents.counts, count.1 ∈ gridSuffixes := by
    simp [counts, gridSuffixes]
  exact keeps count.1 (suffixes count listed)

theorem nodup_ownSizes (contents : Contents α) (group : String) :
    ((contents.ownSizes group).map (·.1)).Nodup := by
  have names : (contents.ownSizes group).map (·.1) =
      (contents.counts.map (·.1)).map (qualified group) := by
    rw [ownSizes, List.map_map, List.map_map]
    rfl
  have distinct : (contents.counts.map (·.1)).Nodup := by simp [counts]
  rw [names]
  exact distinct.map fun first second => (qualified_right_inj group first second).mp

theorem unambiguous_sizes (contents : Contents α) (group : String) :
    Archive.Unambiguous (contents.sizes group) :=
  unambiguous_shared_append (Archive.unambiguous_of_nodup (contents.nodup_ownSizes group))
    fun entry member =>
      have ⟨suffix, _, name⟩ := contents.under_ownSizes group entry member
      ⟨group, suffix, name⟩

/-- The variable of the attributes in a file. Its one element is never written. -/
def infoHeld (contents : Contents α) (group : String) : Variable α :=
  ⟨["one"], [1], .integers .int32 [IntegerType.int32.fill],
    Archive.heldEntries (contents.attributes group)⟩

/-- The variable of an array in a file. -/
def partHeld (contents : Contents α) (group : String) (part : Part) : Variable α :=
  ⟨part.dimensions group, (contents.array part).1, (contents.array part).2,
    Archive.heldEntries [("comment", wrapped part.comment)]⟩

/-- A mesh shows contents that the format admits, of texts and integers that a file keeps. -/
structure WrittenFor (contents : Contents α) (grid : Grid α) : Prop where
  shows : contents.Shows grid
  admitted : contents.Admitted
  fits : contents.Fits
  planar : contents.coordinates = .xy ↔ contents.projection ≠ ""
  texts : contents.KeptTexts

namespace WrittenFor

variable {contents : Contents α} {grid : Grid α}

theorem absent (written : contents.WrittenFor grid)
    (spherical : contents.coordinates = .lonLat) : contents.projection = "" := by
  by_contra filled
  rw [written.planar.mpr filled] at spherical
  cases spherical

theorem ownSizes_eq (written : contents.WrittenFor grid) (group : String) :
    contents.ownSizes group =
      [(vertexDimension group, grid.vertices.size), (cellDimension group, grid.cells.size),
        (offsetDimension group, grid.cells.size + 1),
        (referenceDimension group,
          (grid.cells.items.flatMap fun cell => cell.vertices).length)] := by
  have sizes : ∀ {ι : Type} (table : Table ι), table.sortedItems.length = table.size := by
    intro ι table
    rw [Table.sortedItems, List.length_map, table.sorted_perm.length_eq]
    rfl
  have references : (grid.cells.items.flatMap fun cell => cell.vertices).length =
      contents.references.length := by
    have counted := length_flatMap_sortedItems grid.cells Cell.vertices
    exact counted.symm.trans (written.shows.flatMap_vertices written.admitted.cuts).length_eq
  simp only [ownSizes, counts, List.map_cons, List.map_nil, references, vertexDimension_eq,
    cellDimension_eq, offsetDimension_eq, referenceDimension_eq, ← written.shows.length_vertices,
    ← written.shows.length_cells, sizes]

end WrittenFor

variable [Scalar α]

/-- The variable of an array in a file before the array is written. -/
def partDefined (contents : Contents α) (group : String) (part : Part) : Variable α :=
  { contents.partHeld group part with
    column := part.elementType.fill (Tensor.volume (contents.array part).1) }

/-- The variables of the contents in a file before any array is written. -/
def defined (contents : Contents α) (group : String) : List (String × Variable α) :=
  (infoVariable group, contents.infoHeld group) ::
    parts.map fun part => (part.fullName group, contents.partDefined group part)

theorem under_defined (contents : Contents α) (group : String) :
    Under variableSuffixes group (contents.defined group) := by
  intro entry member
  rcases List.mem_cons.mp member with rfl | inParts
  · exact ⟨"info", by simp [variableSuffixes], infoVariable_eq group⟩
  · obtain ⟨part, _, rfl⟩ := List.mem_map.mp inParts
    exact ⟨part.name, (mem_suffixes part).2.2, rfl⟩

theorem nodup_defined (contents : Contents α) (group : String) :
    ((contents.defined group).map (·.1)).Nodup := by
  have names : (contents.defined group).map (·.1) =
      infoVariable group :: parts.map fun part => part.fullName group := by
    rw [defined, List.map_cons, List.map_map]
    rfl
  rw [names, List.nodup_cons]
  refine ⟨fun member => ?_, nodup_fullNames group⟩
  obtain ⟨part, _, same⟩ := List.mem_map.mp member
  exact part.fullName_ne_infoVariable group same

omit [Scalar α] in
theorem elementType_array (contents : Contents α) (part : Part) :
    (contents.array part).2.elementType = part.elementType := by
  cases part <;> rfl

end Contents

/-! ### Reading -/

section Reading

variable {contents : Contents α} {group : String}

theorem get?_infoHeld (contents : Contents α) (group key : String) :
    (contents.infoHeld group).get? key =
      ((contents.attributes group).lookup key).map Attribute.held :=
  Variable.lookup_mapValues (fun _ (stored : Attribute) => stored.held) key _

/-- What a file hands out as an integer or a text is the same without a row around it. -/
theorem value_unwrapped_held {stored : Attribute} {value : Value}
    (read : stored.unwrapped.value = value) (single : ∀ items, value ≠ .list items) :
    stored.held.unwrapped.value = value := by
  cases stored with
  | mk given isShort isRow =>
      cases isRow with
      | true => exact read
      | false =>
          obtain rfl : given = value := read
          cases given with
          | list items => exact absurd rfl (single items)
          | null | bool _ | int _ | float _ | text _ | moment _ | map _ => rfl

theorem HasInteger.held {key : String} {n : Int} {column : Column α}
    (has : HasInteger (Variable.mk ["one"] [1] column (contents.attributes group)) key n) :
    HasInteger (contents.infoHeld group) key n := by
  obtain ⟨stored, found, read⟩ := has
  refine ⟨stored.held, ?_, value_unwrapped_held read nofun⟩
  rw [get?_infoHeld]
  exact congrArg (Option.map Attribute.held) found

theorem HasText.held {key text : String} {column : Column α}
    (has : HasText (Variable.mk ["one"] [1] column (contents.attributes group)) key text) :
    HasText (contents.infoHeld group) key text := by
  obtain ⟨stored, found, read⟩ := has
  refine ⟨stored.held, ?_, value_unwrapped_held read nofun⟩
  rw [get?_infoHeld]
  exact congrArg (Option.map Attribute.held) found

section

variable [Scalar α] {grid : Grid α} {keeper : Keeper} {dataset : Dataset α}

/-- Contents that were written are read as the mesh that they describe, wherever they are
kept. -/
theorem Contents.WrittenFor.decode_eq_ok (written : contents.WrittenFor grid)
    (typed : WellTyped dataset group) (stores : Stores keeper dataset group contents) :
    decode keeper dataset group = .ok contents.mesh := by
  have last := (written.fits.offsets _ (List.mem_of_getLast? written.admitted.cuts.last)).2
  have steps : StepsFit contents.offsets := written.admitted.cuts.stepsFit (by omega)
  have readable := (Contents.readable_iff_admitted steps).mpr written.admitted
  exact (decode_eq_ok_iff typed _).mpr ⟨contents, stores, readable, rfl⟩

theorem Contents.WrittenFor.decode_dataset (written : contents.WrittenFor grid)
    (group : String) : decode .dataset (contents.dataset group) group = .ok contents.mesh :=
  have tabular := written.admitted.toTabular
  written.decode_eq_ok (wellTyped_dataset tabular written.admitted.offsets written.fits group)
    (stores_dataset tabular written.admitted.offsets written.absent group)

end

/-- A file says about the contents what a dataset says. -/
theorem Contents.storesInfo_held (contents : Contents α) (group : String)
    (absent : contents.coordinates = .lonLat → contents.projection = "") :
    StoresInfo Archive.keeper (contents.infoHeld group) contents := by
  have given := contents.storesInfo group absent
  obtain ⟨version, supported, versionHeld⟩ := given.version
  obtain ⟨typeText, typeHeld, typeRead⟩ := given.type
  obtain ⟨coordinatesText, coordinatesHeld, coordinatesRead⟩ := given.coordinates
  obtain ⟨parameterizationText, parameterizationHeld, parameterizationRead⟩ :=
    given.parameterization
  have name : (contents.attributes group).lookup "name" =
      if contents.name.isEmpty then none else some (.text contents.name) := by
    rw [contents.get?_attributes group (by decide)]
    exact contents.lookup_tags.2.2.2.2.2.2.2
  exact
    { version := ⟨version, supported, versionHeld.held⟩
      type := ⟨typeText, typeHeld.held, typeRead⟩
      coordinates := ⟨coordinatesText, coordinatesHeld.held, coordinatesRead⟩
      parameterization := ⟨parameterizationText, parameterizationHeld.held, parameterizationRead⟩
      cellExtent := given.cellExtent.held
      vertexExtent := given.vertexExtent.held
      projectionPresent := fun planar => (given.projectionPresent planar).held
      projectionAbsent := absent
      namePresent := by
        intro stored found
        rw [get?_infoHeld, name] at found
        split at found
        · cases found
        · cases found
          rfl
      nameAbsent := by
        intro none
        rw [get?_infoHeld, name] at none
        split at none
        next empty => exact String.isEmpty_iff.mp empty
        next => cases none }

end Reading
end GridTables

namespace Archive

open GridTables

variable {α : Type} {archive : Archive α} {group : String} {contents : Contents α}

/-- A file holds the attributes and arrays of contents under a group name. -/
structure HoldsGrid (archive : Archive α) (group : String) (contents : Contents α) : Prop where
  info : archive.dataset.get? (infoVariable group) = some (contents.infoHeld group)
  part : ∀ part : Part,
    archive.dataset.get? (part.fullName group) = some (contents.partHeld group part)

namespace HoldsGrid

theorem hasVector (holds : archive.HoldsGrid group contents) {part : Part} {column : Column α}
    (has : HasVector (contents.dataset group) (part.fullName group) column) :
    HasVector archive.dataset (part.fullName group) column := by
  obtain ⟨var, found, single, rfl⟩ := has
  rw [get?_dataset_part] at found
  cases found
  exact ⟨_, holds.part part, single, rfl⟩

theorem hasColumns (holds : archive.HoldsGrid group contents) {part : Part} {width rows : Nat}
    {column : Column α}
    (has : HasColumns width (contents.dataset group) (part.fullName group) rows column) :
    HasColumns width archive.dataset (part.fullName group) rows column := by
  obtain ⟨var, found, rfl, shape⟩ := has
  rw [get?_dataset_part] at found
  cases found
  exact ⟨_, holds.part part, rfl, shape⟩

variable [Scalar α]

theorem stores (holds : archive.HoldsGrid group contents) (admitted : contents.Admitted)
    (absent : contents.coordinates = .lonLat → contents.projection = "") :
    Stores Archive.keeper archive.dataset group contents := by
  have given := stores_dataset admitted.toTabular admitted.offsets absent group
  obtain ⟨_, vertexIndex, sameVertexIndex⟩ := given.vertexIndex
  obtain ⟨_, _, points, samePoints⟩ := given.points
  obtain ⟨_, cellIndex, sameCellIndex⟩ := given.cellIndex
  obtain ⟨_, _, addresses, sameAddresses⟩ := given.addresses
  obtain ⟨_, areas, sameAreas⟩ := given.areas
  obtain ⟨_, references, sameReferences⟩ := given.references
  obtain ⟨_, offsets, sameOffsets⟩ := given.offsets
  exact
    { info := ⟨_, holds.info, contents.storesInfo_held group absent⟩
      vertexIndex := ⟨_, holds.hasVector vertexIndex, sameVertexIndex⟩
      points := ⟨_, _, holds.hasColumns points, samePoints⟩
      cellIndex := ⟨_, holds.hasVector cellIndex, sameCellIndex⟩
      addresses := ⟨_, _, holds.hasColumns addresses, sameAddresses⟩
      areas := ⟨_, holds.hasVector areas, sameAreas⟩
      references := ⟨_, holds.hasVector references, sameReferences⟩
      offsets := ⟨_, holds.hasVector offsets, sameOffsets⟩ }

omit [Scalar α] in
theorem wellTyped (holds : archive.HoldsGrid group contents) (admitted : contents.Admitted)
    (fits : contents.Fits) : WellTyped archive.dataset group := by
  have given := wellTyped_dataset admitted.toTabular admitted.offsets fits group
  have sameInfo : ∀ {info : Variable α}, archive.dataset.get? (infoVariable group) = some info →
      ∀ {key : String} {stored : Attribute}, info.get? key = some stored →
      ∃ known, (Variable.mk (α := α) ["one"] [1] (.integers .int32 [0])
        (contents.attributes group)).get? key = some known ∧ stored = known.held := by
    intro info found key stored present
    obtain rfl := Option.some.inj (holds.info.symm.trans found)
    rw [get?_infoHeld, Option.map_eq_some_iff] at present
    obtain ⟨known, knownPresent, rfl⟩ := present
    exact ⟨known, knownPresent, rfl⟩
  constructor
  · intro part var found
    obtain rfl := Option.some.inj ((holds.part part).symm.trans found)
    have known := given.rectangular part _ (get?_dataset_part contents group part)
    exact known
  · intro part member var found
    obtain rfl := Option.some.inj ((holds.part part).symm.trans found)
    have known := given.words part member _ (get?_dataset_part contents group part)
    exact known
  · intro info found key member stored present
    obtain ⟨known, knownPresent, rfl⟩ := sameInfo found present
    obtain ⟨n, read⟩ :=
      given.integers _ (get?_dataset_info contents group) key member known knownPresent
    exact ⟨n, value_unwrapped_held read nofun⟩
  · intro info found key member stored present
    obtain ⟨known, knownPresent, rfl⟩ := sameInfo found present
    obtain ⟨text, read⟩ :=
      given.texts _ (get?_dataset_info contents group) key member known knownPresent
    exact ⟨text, value_unwrapped_held read nofun⟩

/-- Contents that a file holds are read as the mesh that they describe. -/
theorem readGrid (holds : archive.HoldsGrid group contents) {grid : Grid α}
    (written : contents.WrittenFor grid) : archive.readGrid group = .ok contents.mesh :=
  written.decode_eq_ok (holds.wellTyped written.admitted written.fits)
    (holds.stores written.admitted written.absent)

end HoldsGrid

/-! ### Defining -/

/-- The names under a group are free, and the shared dimensions are free or as they should be. -/
structure FreeFor (archive : Archive α) (group : String) : Prop where
  shared : ∀ entry ∈ sharedSizes, archive.dimension? entry.1 = none ∨
    archive.dimension? entry.1 = some (.made entry.1 entry.2)
  dimensions : ∀ suffix ∈ dimensionSuffixes, archive.dimension? (qualified group suffix) = none
  names : ∀ suffix ∈ variableSuffixes, archive.dataset.get? (qualified group suffix) = none

variable {before : Archive α}

/-- A loop in which each step makes one dimension makes all of them. -/
theorem Settled.exists_forM_dimensions (settled : before.Settled)
    {step : String × Nat → Attempt (Archive α) PUnit} (made : List (String × Nat))
    (agree : Unambiguous made)
    (each : ∀ done entry rest between, made = done ++ entry :: rest →
      before.Becomes done [] between →
      ∃ after, (step entry).outcome between = (.ok (), after) ∧
        between.Becomes [entry] [] after) :
    ∃ after, Attempt.outcome (made.forM step) before = (.ok (), after) ∧
      before.Becomes made [] after := by
  have single : ∀ entries : List (String × Nat), (entries.flatMap fun entry => [entry]) = entries :=
    fun entries => by simp
  have none : ∀ entries : List (String × Nat),
      (entries.flatMap fun _ => ([] : List (String × Variable α))) = [] :=
    fun entries => List.flatMap_eq_nil_iff.mpr fun _ _ => rfl
  have loop := settled.exists_forM step (fun entry => [entry]) (fun _ => []) made
  simp only [single, none] at loop
  exact loop agree (by simp [Unambiguous]) each

theorem Settled.exists_requireShared (settled : before.Settled) (few : List (String × Nat))
    (within : few ⊆ sharedSizes)
    (known : ∀ entry ∈ few, before.dimension? entry.1 = none ∨
      before.dimension? entry.1 = some (.made entry.1 entry.2)) :
    ∃ after, Attempt.outcome (few.forM fun entry => requireDimension entry.1 entry.2) before =
        (.ok (), after) ∧ before.Becomes few [] after := by
  have shared : Unambiguous sharedSizes := unambiguous_of_nodup (by decide)
  have agree : Unambiguous few := shared.mono within
  refine settled.exists_forM_dimensions few agree fun done entry rest between split early => ?_
  have listed : entry ∈ few := by simp [split]
  refine early.settled.exists_requireDimension (kept_shared entry (within listed)) ?_
  by_cases earlier : entry.1 ∈ done.map (·.1)
  · obtain ⟨other, inDone, same⟩ := List.mem_map.mp earlier
    have one := agree other (by simp [split, inDone]) entry listed same
    exact .inr (one ▸ early.made other inDone)
  · rw [early.otherDimension _ earlier]
    exact known entry listed

theorem Settled.exists_makeDimensions (settled : before.Settled) (made : List (String × Nat))
    (kept : ∀ entry ∈ made, Kept entry.1) (distinct : (made.map (·.1)).Nodup)
    (free : ∀ entry ∈ made, before.dimension? entry.1 = none) :
    ∃ after, Attempt.outcome (made.forM fun entry => makeDimension entry.1 entry.2) before =
        (.ok (), after) ∧ before.Becomes made [] after := by
  refine settled.exists_forM_dimensions made (unambiguous_of_nodup distinct)
    fun done entry rest between split early => ?_
  have listed : entry ∈ made := by simp [split]
  have absent : entry.1 ∉ done.map (·.1) := by
    rw [split, List.map_append, List.map_cons, List.nodup_append] at distinct
    exact fun earlier => distinct.2.2 entry.1 earlier entry.1 List.mem_cons_self rfl
  refine early.settled.exists_makeDimension (kept entry listed) ?_ entry.2
  rw [early.otherDimension _ absent, free entry listed]

/-- A loop in which each step changes one variable of its own changes all of them. Each step
finds the dimensions and its variable as they were before the loop. -/
theorem Settled.exists_forM_variables {ι : Type} (settled : before.Settled)
    (step : ι → Attempt (Archive α) PUnit) (items : List ι) (entryOf : ι → String × Variable α)
    (distinct : (items.map fun item => (entryOf item).1).Nodup)
    (each : ∀ item ∈ items, ∀ between : Archive α, between.Settled →
      (∀ name, between.dimension? name = before.dimension? name) →
      between.dataset.get? (entryOf item).1 = before.dataset.get? (entryOf item).1 →
      ∃ after, (step item).outcome between = (.ok (), after) ∧
        between.Becomes [] [entryOf item] after) :
    ∃ after, Attempt.outcome (items.forM step) before = (.ok (), after) ∧
      before.Becomes [] (items.map entryOf) after := by
  have single : ∀ some : List ι, (some.flatMap fun item => [entryOf item]) = some.map entryOf :=
    fun some => by simp [List.map_eq_flatMap]
  have none : ∀ some : List ι, (some.flatMap fun _ => ([] : List (String × Nat))) = [] :=
    fun some => List.flatMap_eq_nil_iff.mpr fun _ _ => rfl
  have agree : Unambiguous (items.map entryOf) :=
    unambiguous_of_nodup (by simpa [Function.comp_def] using distinct)
  have loop := settled.exists_forM step (fun _ => []) (fun item => [entryOf item]) items
  simp only [single, none] at loop
  refine loop (by simp [Unambiguous]) agree fun done item rest between split early => ?_
  refine each item (by simp [split]) between early.settled
    (fun name => early.otherDimension name (by simp)) (early.otherVariable _ fun earlier => ?_)
  rw [split, List.map_append, List.map_cons, List.nodup_append] at distinct
  exact distinct.2.2 _ (by simpa using earlier) _ List.mem_cons_self rfl

theorem sized_part {between : Archive α}
    (made : ∀ entry ∈ contents.sizes group,
      between.dimension? entry.1 = some (.made entry.1 entry.2)) (part : Part) :
    List.Forall₂ (fun dimension size =>
      between.dimension? dimension = some (.made dimension size))
      (part.dimensions group) (contents.array part).1 := by
  have two := made ("two", 2) (by simp [Contents.sizes, sharedSizes])
  have three := made ("three", 3) (by simp [Contents.sizes, sharedSizes])
  have own : ∀ count ∈ contents.counts, between.dimension? (qualified group count.1) =
      some (.made (qualified group count.1) count.2) := fun count member =>
    made (qualified group count.1, count.2)
      (List.mem_append_right _ (List.mem_map_of_mem member))
  simp only [Contents.counts, List.forall_mem_cons, ← vertexDimension_eq, ← cellDimension_eq,
    ← offsetDimension_eq, ← referenceDimension_eq] at own
  obtain ⟨vertices, cells, offsets, references, -⟩ := own
  cases part <;>
    simp [Part.dimensions, Contents.array, vertices, cells, offsets, references, two, three]

theorem kept_dimensions (keeps : KeepsNames group gridSuffixes) (part : Part) :
    ∀ dimension ∈ part.dimensions group, Kept dimension := by
  have two := kept_shared ("two", 2) (by simp [sharedSizes])
  have three := kept_shared ("three", 3) (by simp [sharedSizes])
  have vertices := keeps "vertices.num_realized" (by simp [gridSuffixes])
  have cells := keeps "cells.num_realized" (by simp [gridSuffixes])
  have offsets := keeps "cells.num_realized_plus1" (by simp [gridSuffixes])
  have references := keeps "cells.num_vertex_refs" (by simp [gridSuffixes])
  rw [← vertexDimension_eq] at vertices
  rw [← cellDimension_eq] at cells
  rw [← offsetDimension_eq] at offsets
  rw [← referenceDimension_eq] at references
  cases part <;> simp [Part.dimensions, *]

variable [Scalar α]

/-- The arrays are defined on dimensions that are there. -/
theorem Settled.exists_defineParts (settled : before.Settled) (contents : Contents α)
    (keeps : KeepsNames group gridSuffixes)
    (made : ∀ entry ∈ contents.sizes group,
      before.dimension? entry.1 = some (.made entry.1 entry.2))
    (free : ∀ part : Part, before.dataset.get? (part.fullName group) = none) :
    ∃ after, Attempt.outcome (parts.forM fun part => do
        define (part.fullName group) part.elementType (part.dimensions group)
        annotate true (part.fullName group) "comment" (wrapped part.comment)) before =
        (.ok (), after) ∧
      before.Becomes [] (parts.map fun part => (part.fullName group,
        contents.partDefined group part)) after := by
  refine settled.exists_forM_variables _ parts
    (fun part => (part.fullName group, contents.partDefined group part))
    (nodup_fullNames group) fun part _ between wasSettled dimensions own => ?_
  have kept : Kept (part.fullName group) :=
    keeps part.name (mem_suffixes part).2.1
  have sized : List.Forall₂ (fun dimension size =>
      between.dimension? dimension = some (.made dimension size))
      (part.dimensions group) (contents.array part).1 :=
    sized_part (fun entry member => (dimensions entry.1).trans (made entry member)) part
  obtain ⟨middle, defined, early⟩ := wasSettled.exists_define kept (own.trans (free part))
    part.elementType (kept_dimensions keeps part) sized
  obtain ⟨after, annotated, late⟩ := early.settled.exists_annotate kept
    (early.held _ (List.mem_singleton_self _)) (keptEntry_comment part) rfl
  exact ⟨after, (outcome_bind_of_ok defined _).trans annotated,
    early.replace late (List.Subset.refl _)⟩

omit [Scalar α] in
/-- A shared dimension stays free or as it should be, whatever is made besides. -/
theorem Becomes.shared {after : Archive α} {sizes : List (String × Nat)}
    {vars : List (String × Variable α)} (becomes : before.Becomes sizes vars after)
    (agree : Unambiguous (sharedSizes ++ sizes)) {entry : String × Nat}
    (listed : entry ∈ sharedSizes)
    (known : before.dimension? entry.1 = none ∨
      before.dimension? entry.1 = some (.made entry.1 entry.2)) :
    after.dimension? entry.1 = none ∨
      after.dimension? entry.1 = some (.made entry.1 entry.2) := by
  rcases agree.mem_or_untouched listed with made | untouched
  · exact .inr (becomes.made entry made)
  · rw [becomes.otherDimension _ untouched]
    exact known

omit [Scalar α] in
/-- Names that are free stay free while other names are taken. -/
theorem FreeFor.of_becomes {after : Archive α} {sizes : List (String × Nat)}
    {vars : List (String × Variable α)} (free : before.FreeFor group)
    (becomes : before.Becomes sizes vars after) (agree : Unambiguous (sharedSizes ++ sizes))
    (otherSizes : ∀ suffix ∈ dimensionSuffixes, qualified group suffix ∉ sizes.map (·.1))
    (otherVars : ∀ suffix ∈ variableSuffixes, qualified group suffix ∉ vars.map (·.1)) :
    after.FreeFor group where
  shared := fun entry listed => becomes.shared agree listed (free.shared entry listed)
  dimensions := fun suffix listed =>
    (becomes.otherDimension _ (otherSizes suffix listed)).trans (free.dimensions suffix listed)
  names := fun suffix listed =>
    (becomes.otherVariable _ (otherVars suffix listed)).trans (free.names suffix listed)

omit [Scalar α] in
/-- A mesh that a file holds stays there while other names are taken. -/
theorem HoldsGrid.of_becomes {after : Archive α} {sizes : List (String × Nat)}
    {vars : List (String × Variable α)} (holds : before.HoldsGrid group contents)
    (becomes : before.Becomes sizes vars after)
    (others : ∀ suffix ∈ variableSuffixes, qualified group suffix ∉ vars.map (·.1)) :
    after.HoldsGrid group contents where
  info := by
    have untouched := others "info" (by simp [variableSuffixes])
    rw [← infoVariable_eq] at untouched
    exact (becomes.otherVariable _ untouched).trans holds.info
  part := fun part =>
    (becomes.otherVariable _ (others part.name (mem_suffixes part).2.2)).trans (holds.part part)

/-- The variable of the attributes comes with the dimension of length one. -/
theorem Settled.exists_defineInfo (settled : before.Settled) {grid : Grid α}
    (written : contents.WrittenFor grid) (keeps : KeepsNames group gridSuffixes)
    (free : before.FreeFor group) :
    ∃ sized bare after,
      (requireDimension "one" 1).outcome before = (.ok (), sized) ∧
      (define (infoVariable group) (.integer .int32) ["one"]).outcome sized = (.ok (), bare) ∧
      (annotateAll (infoVariable group) (contents.attributes group)).outcome bare =
        (.ok (), after) ∧
      before.Becomes [("one", 1)] [(infoVariable group, contents.infoHeld group)] after := by
  have one : ("one", 1) ∈ sharedSizes := by simp [sharedSizes]
  obtain ⟨sized, required, early⟩ :=
    settled.exists_requireDimension (kept_shared _ one) (free.shared _ one)
  have kept : Kept (infoVariable group) :=
    infoVariable_eq group ▸ keeps "info" (by simp [gridSuffixes])
  have new : sized.dataset.get? (infoVariable group) = none := by
    rw [early.otherVariable _ (by simp), infoVariable_eq]
    exact free.names "info" (by simp [variableSuffixes])
  have long : List.Forall₂ (fun dimension size =>
      sized.dimension? dimension = some (.made dimension size)) ["one"] [1] := by
    simpa using early.made _ (List.mem_singleton_self _)
  obtain ⟨bare, after, defined, annotated, late⟩ :=
    early.settled.exists_defineAnnotated kept new (.integer .int32)
      (by simpa using kept_shared _ one) long
      (Contents.keptEntry_attributes written.texts written.fits keeps)
      (contents.nodup_keys_attributes group)
  exact ⟨sized, bare, after, required, defined, annotated,
    early.trans late (by simp [Unambiguous]) (by simp [Unambiguous])⟩

omit [Scalar α] in
/-- The dimensions of the arrays are made, or are there if they are shared. -/
theorem Becomes.exists_makeSizes {start : Archive α} {vars : List (String × Variable α)}
    (early : before.Becomes [("one", 1)] vars start) (contents : Contents α)
    (keeps : KeepsNames group gridSuffixes) (free : before.FreeFor group) :
    ∃ own after,
      Attempt.outcome ((contents.ownSizes group).forM fun entry =>
        makeDimension entry.1 entry.2) start = (.ok (), own) ∧
      Attempt.outcome ([("two", 2), ("three", 3)].forM fun entry =>
        requireDimension entry.1 entry.2) own = (.ok (), after) ∧
      start.Becomes (contents.ownSizes group ++ [("two", 2), ("three", 3)]) [] after := by
  have agree := contents.unambiguous_sizes group
  have one : ("one", 1) ∈ sharedSizes := by simp [sharedSizes]
  have others : [("two", 2), ("three", 3)] ⊆ sharedSizes := by simp [sharedSizes]
  have new : ∀ entry ∈ contents.ownSizes group, start.dimension? entry.1 = none := by
    intro entry member
    obtain ⟨suffix, known, name⟩ := contents.under_ownSizes group entry member
    rw [name, early.otherDimension _ (by simpa using (shared_ne_qualified one group suffix).symm)]
    exact free.dimensions suffix known
  obtain ⟨own, ownDone, ownMade⟩ := early.settled.exists_makeDimensions
    (contents.ownSizes group) (contents.kept_ownSizes keeps) (contents.nodup_ownSizes group) new
  have first : Unambiguous (sharedSizes ++ [("one", 1)]) :=
    agree.mono fun entry => by simp [Contents.mem_sizes, sharedSizes]; tauto
  obtain ⟨after, sharedDone, sharedMade⟩ := ownMade.settled.exists_requireShared
    [("two", 2), ("three", 3)] others fun entry member =>
      ownMade.shared agree (others member)
        (early.shared first (others member) (free.shared entry (others member)))
  exact ⟨own, after, ownDone, sharedDone, ownMade.trans sharedMade
    (agree.mono fun entry => by simp [Contents.mem_sizes]; tauto) (by simp [Unambiguous])⟩

/-- A mesh that shows contents which a file keeps is defined where its names are free. -/
theorem Settled.exists_defineGrid (settled : before.Settled) {grid : Grid α}
    (written : contents.WrittenFor grid) (keeps : KeepsNames group gridSuffixes)
    (free : before.FreeFor group) :
    ∃ after, (defineGrid grid group).outcome before = (.ok (), after) ∧
      before.Becomes (contents.sizes group) (contents.defined group) after := by
  have agree := contents.unambiguous_sizes group
  obtain ⟨withOne, bare, withInfo, required, defined, annotated, infoMade⟩ :=
    settled.exists_defineInfo written keeps free
  obtain ⟨withOwn, withShared, ownDone, sharedDone, sizesMade⟩ :=
    infoMade.exists_makeSizes contents keeps free
  have ready := infoMade.trans sizesMade
    (agree.mono fun entry => by simp [Contents.mem_sizes]; tauto) (by simp [Unambiguous])
  have made : ∀ entry ∈ contents.sizes group,
      withShared.dimension? entry.1 = some (.made entry.1 entry.2) := fun entry member =>
    ready.made entry (by simpa [Contents.mem_sizes, or_comm, or_left_comm, or_assoc] using member)
  have partsFree : ∀ part : Part, withShared.dataset.get? (part.fullName group) = none := by
    intro part
    rw [ready.otherVariable _ (by simpa using part.fullName_ne_infoVariable group)]
    exact free.names part.name (mem_suffixes part).2.2
  obtain ⟨after, partsDone, partsMade⟩ :=
    ready.settled.exists_defineParts contents keeps made partsFree
  have varsAgree := unambiguous_of_nodup (contents.nodup_defined group)
  have whole := ready.trans partsMade
    (agree.mono fun entry => by simp [Contents.mem_sizes]; tauto) varsAgree
  refine ⟨after, ?_, whole.congr (fun entry => by simp [Contents.mem_sizes]; tauto)
    fun entry => Iff.rfl⟩
  have validated : Attempt.outcome (liftM grid.validate : Attempt (Archive α) Unit) before =
      (.ok (), before) := by
    rw [outcome_lift, written.shows.validate_eq_ok written.planar]
  have informed : Attempt.outcome (liftM (infoAttributes grid group) :
      Attempt (Archive α) (List (String × Attribute))) bare =
        (.ok (contents.attributes group), bare) := by
    rw [outcome_lift, infoAttributes_eq_ok written.shows written.fits]
  rw [written.ownSizes_eq] at ownDone
  rw [defineGrid, outcome_bind_of_ok validated]
  dsimp only
  rw [outcome_bind_of_ok (outcome_get before), if_neg (by simp [settled.format]),
    outcome_bind_of_ok required, outcome_bind_of_ok defined, outcome_bind_of_ok informed,
    outcome_bind_of_ok annotated]
  exact (outcome_foldr_of_forM ownDone _).trans
    ((outcome_foldr_of_forM sharedDone _).trans partsDone)

/-! ### Writing -/

/-- The arrays of a mesh that was defined are written, those without elements being there
already. -/
theorem Settled.exists_writeGrid (settled : before.Settled) {grid : Grid α}
    (written : contents.WrittenFor grid) (keeps : KeepsNames group gridSuffixes)
    (defined : ∀ part : Part, before.dataset.get? (part.fullName group) =
      some (contents.partDefined group part)) :
    ∃ after, (writeGrid grid group).outcome before = (.ok (), after) ∧
      before.Becomes [] (parts.map fun part => (part.fullName group,
        contents.partHeld group part)) after := by
  have tabular := written.admitted.toTabular
  have offsets := written.admitted.offsets
  have listed : Attempt.outcome (liftM (arrays grid) :
      Attempt (Archive α) (List (Part × List Nat × Column α))) before =
        (.ok (parts.map fun part => (part, contents.array part)), before) := by
    rw [outcome_lift, arrays_eq_ok written.shows written.fits written.admitted.cuts]
  rw [writeGrid, outcome_bind_of_ok listed]
  have loop := settled.exists_forM_variables
    (fun item => do
      if item.2.2.length ≠ 0 then store (item.1.fullName group) item.2.1 item.2.2)
    (parts.map fun part => (part, contents.array part))
    (fun item => (item.1.fullName group, contents.partHeld group item.1))
    (by simpa [Function.comp_def] using nodup_fullNames group)
  rw [List.map_map] at loop
  refine loop fun item member between wasSettled _ own => ?_
  obtain ⟨part, _, rfl⟩ := List.mem_map.mp member
  have found := own.trans (defined part)
  rw [Contents.partDefined, ← contents.elementType_array] at found
  exact wasSettled.exists_storeDefined (keeps part.name (mem_suffixes part).2.1) found
    (tabular.rectangular offsets part)

end Archive
end Regrid
