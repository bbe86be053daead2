import Regrid.Proofs.Store.Contents

/-!
Contract: reading a dataset gives a mesh exactly when the dataset stores contents that the
format admits, and then it gives the mesh that the contents describe.

Owns:
- what each reader answers, as an equivalence;
- the reading of a dataset as a whole.

Does not own: the writing of a dataset.
-/

namespace Regrid.GridTables

open Regrid.Schema Attempt

variable {α : Type} {keeper : Keeper} {dataset : Dataset α} {group : String}

/-! ### Single attributes and arrays -/

theorem fetch_eq_ok_iff (name : String) (var : Variable α) :
    fetch keeper dataset name = .ok var ↔ dataset.get? name = some var := by
  unfold fetch
  cases dataset.get? name <;> simp

theorem vector_eq_ok_iff (name : String) (column : Column α) :
    vector keeper dataset name = .ok column ↔ HasVector dataset name column := by
  simp only [vector, bind_eq_ok_iff, fetch_eq_ok_iff]
  constructor
  · rintro ⟨var, found, read⟩
    split at read
    next vector => exact ⟨var, found, vector, Except.ok.inj read⟩
    next => cases read
  · rintro ⟨var, found, vector, rfl⟩
    exact ⟨var, found, by rw [if_pos vector]; rfl⟩

theorem columns_eq_ok_iff (width : Nat) (name : String) (rows : Nat) (column : Column α) :
    columns width keeper dataset name = .ok (rows, column) ↔
      HasColumns width dataset name rows column := by
  simp only [columns, bind_eq_ok_iff, fetch_eq_ok_iff]
  constructor
  · rintro ⟨var, found, read⟩
    split at read
    next empty =>
      cases read
      exact ⟨var, found, rfl, .inl ⟨empty, rfl⟩⟩
    next filled =>
      split at read
      next stored widthStored shape =>
        split at read
        next same =>
          cases read
          exact ⟨var, found, rfl, .inr ⟨filled, by rw [shape, same]⟩⟩
        next => cases read
      next => cases read
  · rintro ⟨var, found, rfl, ⟨empty, rfl⟩ | ⟨filled, shape⟩⟩
    · exact ⟨var, found, by rw [if_pos empty]; rfl⟩
    · exact ⟨var, found, by rw [if_neg filled, shape]; simp [pure, Except.pure]⟩

theorem wrapValue_eq_ok_iff {τ : Type} (wrap : Error → Error) (step : Except Error τ)
    (answer : τ) : wrapValue wrap step = .ok answer ↔ step = .ok answer := by
  cases step with
  | ok _ => rfl
  | error reason =>
      simp only [wrapValue, reduceCtorEq, iff_false]
      split <;> simp

theorem infoValue_eq_ok_iff (info : Variable α) (key : String) (value : Attribute) :
    infoValue group info key = .ok value ↔
      ∃ stored, info.get? key = some stored ∧ stored.unwrapped = value := by
  unfold infoValue
  cases info.get? key <;> simp

theorem infoInteger_eq_ok_iff {info : Variable α} {key : String}
    (typed : ∀ stored, info.get? key = some stored → ∃ n, stored.unwrapped.value = .int n)
    (n : Int) : infoInteger group info key = .ok n ↔ HasInteger info key n := by
  simp only [infoInteger, bind_eq_ok_iff, infoValue_eq_ok_iff]
  constructor
  · rintro ⟨_, ⟨stored, found, rfl⟩, read⟩
    obtain ⟨m, value⟩ := typed stored found
    rw [value, Value.toInteger_int] at read
    cases read
    exact ⟨stored, found, value⟩
  · rintro ⟨stored, found, value⟩
    exact ⟨_, ⟨stored, found, rfl⟩, by rw [value]; rfl⟩

/-- How a value that is no tag would be shown does not matter for a tag. -/
theorem readTag_eq_ok_iff {τ : Type} [TagFamily τ] (value : Value) (shown : Value → String)
    (tag : τ) : readTag value shown = .ok tag ↔ readTag value = .ok tag := by
  simp only [readTag, bind_eq_ok_iff]
  refine exists_congr fun written => and_congr_right fun _ => ?_
  split
  · rfl
  · simp [throw, throwThe, MonadExceptOf.throw]

theorem infoTag_eq_ok_iff {τ : Type} [TagFamily τ] {info : Variable α} {key : InfoKey}
    (typed : ∀ stored, info.get? key.name = some stored →
      ∃ text, stored.unwrapped.value = .text text) (tag : τ) :
    infoTag keeper group info key = .ok tag ↔ HasTag info key tag := by
  simp only [infoTag, bind_eq_ok_iff, infoValue_eq_ok_iff, readTag_eq_ok_iff]
  constructor
  · rintro ⟨_, ⟨stored, found, rfl⟩, read⟩
    obtain ⟨text, value⟩ := typed stored found
    rw [value] at read
    exact ⟨text, ⟨stored, found, value⟩, read⟩
  · rintro ⟨text, ⟨stored, found, value⟩, read⟩
    exact ⟨_, ⟨stored, found, rfl⟩, by rw [value]; exact read⟩

/-! ### The parts of a mesh -/

/-- The projection that the attributes give for some coordinates. -/
def readProjection (group : String) (info : Variable α) :
    Coordinates → Except Error String
  | .xy => do (← infoValue group info InfoKey.projection.name).value.writable
  | .lonLat => pure ""

def readName (keeper : Keeper) (info : Variable α) : Except Error String :=
  match info.get? "name" with
  | some stored => keeper.labelOf stored
  | none => pure ""

theorem readInfo_eq_ok_iff (typed : WellTyped dataset group) {info : Variable α}
    (found : dataset.get? (infoVariable group) = some info) (tags : Info) :
    readInfo keeper group info = .ok tags ↔
      HasTag info .type tags.type ∧ HasTag info .coordinates tags.coordinates ∧
        HasTag info .parameterization tags.parameterization ∧
        HasInteger info InfoKey.cellExtent.name tags.cellExtent ∧
        HasInteger info InfoKey.vertexExtent.name tags.vertexExtent := by
  have texts := typed.texts info found
  have integers := typed.integers info found
  simp only [readInfo, bind_eq_ok_iff, infoTag_eq_ok_iff (texts .type (by simp)),
    infoTag_eq_ok_iff (texts .coordinates (by simp)),
    infoTag_eq_ok_iff (texts .parameterization (by simp)),
    infoInteger_eq_ok_iff (integers InfoKey.cellExtent.name (by simp)),
    infoInteger_eq_ok_iff (integers InfoKey.vertexExtent.name (by simp))]
  constructor
  · rintro ⟨_, type, _, coordinates, _, parameterization, _, cellExtent, _, vertexExtent, same⟩
    cases same
    exact ⟨type, coordinates, parameterization, cellExtent, vertexExtent⟩
  · rintro ⟨type, coordinates, parameterization, cellExtent, vertexExtent⟩
    exact ⟨_, type, _, coordinates, _, parameterization, _, cellExtent, _, vertexExtent, rfl⟩

theorem readProjection_eq_ok_iff (typed : WellTyped dataset group) {info : Variable α}
    (found : dataset.get? (infoVariable group) = some info) (coordinates : Coordinates)
    (projection : String) :
    readProjection group info coordinates = .ok projection ↔
      (coordinates = .xy → HasText info InfoKey.projection.name projection) ∧
        (coordinates = .lonLat → projection = "") := by
  have texts := typed.texts info found .projection (by simp)
  cases coordinates with
  | lonLat => simp [readProjection, pure, Except.pure, eq_comm]
  | xy =>
      simp only [readProjection, bind_eq_ok_iff, infoValue_eq_ok_iff, true_implies, reduceCtorEq,
        false_implies, and_true]
      constructor
      · rintro ⟨_, ⟨stored, present, rfl⟩, read⟩
        obtain ⟨text, value⟩ := texts stored present
        rw [value] at read
        cases read
        exact ⟨stored, present, value⟩
      · rintro ⟨stored, present, value⟩
        exact ⟨_, ⟨stored, present, rfl⟩, by rw [value]; rfl⟩

theorem readName_eq_ok_iff (info : Variable α) (name : String) :
    readName keeper info = .ok name ↔
      (∀ stored, info.get? "name" = some stored → keeper.labelOf stored = .ok name) ∧
        (info.get? "name" = none → name = "") := by
  unfold readName
  cases info.get? "name" <;> simp [pure, Except.pure, eq_comm]

theorem create_eq_ok_iff {ν κ : Type} (name projection : String) (type : GridType)
    (coordinates : Coordinates) (parameterization : Parameterization) (empty : Mesh ν κ)
    (absent : coordinates = .lonLat → projection = "") :
    Mesh.create (.text name) type coordinates parameterization (.text projection) = .ok empty ↔
      (coordinates = .xy → projection ≠ "") ∧
        empty = ⟨.text name, type, coordinates, parameterization, .text projection, {}, {}⟩ := by
  have kept : (Value.text projection).orEmpty = .text projection := Value.orEmpty_text projection
  have filled : (Value.text projection).isBlankOption = false ↔ projection ≠ "" := by
    simp [Value.isBlankOption]
  simp only [Mesh.create, bind_eq_ok_iff, kept]
  constructor
  · rintro ⟨_, validated, same⟩
    have consistent := (Mesh.validate_eq_ok_iff _).mp validated
    exact ⟨fun planar => filled.mp (consistent.mp planar), (Except.ok.inj same).symm⟩
  · rintro ⟨present, rfl⟩
    refine ⟨(), (Mesh.validate_eq_ok_iff _).mpr ⟨fun planar => filled.mpr (present planar),
      fun nonblank => ?_⟩, rfl⟩
    have some := filled.mp nonblank
    cases coordinates with
    | xy => rfl
    | lonLat => exact absurd (absent rfl) some

variable [Scalar α]

theorem readVertices_eq_ok_iff (grid filled : Grid α) :
    readVertices keeper group dataset grid = .ok filled ↔
      ∃ index, HasVector dataset (Part.vertexIndex.fullName group) index ∧
        ∃ rows points, HasColumns 2 dataset (Part.vertexPoints.fullName group) rows points ∧
        rows = index.length ∧
        ((index.toIntegers.zip (pairs points.toReals)).map vertexRow).foldlM
          (fun grid row => grid.insertVertex row.1 row.2) grid = .ok filled := by
  simp only [readVertices, bind_eq_ok_iff, vector_eq_ok_iff, Prod.exists, columns_eq_ok_iff,
    refuse_eq_ok_iff, wrapValue_eq_ok_iff, Decidable.not_not, List.foldlM_map]
  rfl

theorem readCells_eq_ok_iff (info : Info) (grid filled : Grid α) :
    readCells keeper group dataset info grid = .ok filled ↔
      ∃ index, HasVector dataset (Part.cellIndex.fullName group) index ∧
        ∃ rows addresses, HasColumns 3 dataset (Part.cellAddress.fullName group) rows addresses ∧
        ∃ areas, HasVector dataset (Part.cellArea.fullName group) areas ∧
        ∃ references, HasVector dataset (Part.references.fullName group) references ∧
        ∃ offsets, HasVector dataset (Part.offsets.fullName group) offsets ∧
        (rows = index.length ∧ areas.length = index.length) ∧
        offsetsFit index.length references.length offsets.toIntegers = true ∧
        ∃ cells, ((index.toIntegers.zip ((triples addresses.toIntegers).zip (areas.toReals.zip
          (referenceLists references.toIntegers offsets.toIntegers)))).map cellRow).foldlM
          (fun grid row => grid.insertCell row.2.vertices row.1 row.2) grid = .ok cells ∧
        ∃ fixed, cells.fixExtent .cell (.int info.cellExtent) = .ok fixed ∧
          fixed.fixExtent .vertex (.int info.vertexExtent) = .ok filled := by
  simp only [readCells, bind_eq_ok_iff, vector_eq_ok_iff, Prod.exists, columns_eq_ok_iff,
    refuse_eq_ok_iff, wrapValue_eq_ok_iff, not_or, Decidable.not_not, List.foldlM_map,
    Bool.not_eq_true', Bool.not_eq_false]
  rfl

/-! ### The rows of a mesh -/

def Contents.info (contents : Contents α) : Info :=
  ⟨contents.type, contents.coordinates, contents.parameterization, contents.cellExtent,
    contents.vertexExtent⟩

/-- The mesh without rows and with extents that are not fixed yet. -/
def Contents.blank (contents : Contents α) : Grid α :=
  ⟨.text contents.name, contents.type, contents.coordinates, contents.parameterization,
    .text contents.projection, {}, {}⟩

omit [Scalar α] in
theorem foldlM_vertexRows_eq_ok_iff (contents : Contents α)
    (points : contents.points.length = contents.vertexIndex.length) (filled : Grid α) :
    contents.vertexRows.foldlM (fun grid row => grid.insertVertex row.1 row.2) contents.blank =
        .ok filled ↔
      contents.vertexIndex.Nodup ∧ (∀ index ∈ contents.vertexIndex, 0 ≤ index) ∧
        filled = { contents.blank with
          vertices := ⟨contents.vertexRows, Table.topOf contents.vertexIndex, none⟩ } := by
  have keys := Contents.map_fst_vertexRows points
  have natural : (∀ row ∈ contents.vertexRows, 0 ≤ row.1 ∧ row.1 ∉ contents.blank.vertices.keys) ↔
      ∀ index ∈ contents.vertexIndex, 0 ≤ index := by
    rw [← keys, List.forall_mem_map]
    simp [Contents.blank, Table.keys]
  rw [Mesh.foldlM_insertVertex_eq_ok_iff]
  have unfixed : contents.blank.vertices.fixedExtent = none := rfl
  simp only [Table.foldlM_insert_eq_ok_iff .vertex contents.vertexRows unfixed, keys, natural]
  constructor
  · rintro ⟨table, ⟨distinct, fits, rfl⟩, rfl⟩
    refine ⟨distinct, fits, ?_⟩
    simp [Table.append, Contents.blank, keys, Table.topOf]
  · rintro ⟨distinct, fits, rfl⟩
    refine ⟨_, ⟨distinct, fits, rfl⟩, ?_⟩
    simp [Table.append, Contents.blank, keys, Table.topOf]

omit [Scalar α] in
theorem foldlM_cellRows_eq_ok_iff (contents : Contents α)
    (addresses : contents.addresses.length = contents.cellIndex.length)
    (areas : contents.areas.length = contents.cellIndex.length)
    (offsets : contents.offsets.length = contents.cellIndex.length + 1)
    {start : Grid α} (none : start.cells = {}) (keys : start.vertices.keys = contents.vertexIndex)
    (filled : Grid α) :
    contents.cellRows.foldlM (fun grid row => grid.insertCell row.2.vertices row.1 row.2) start =
        .ok filled ↔
      (∀ list ∈ referenceLists contents.references contents.offsets, ∀ reference ∈ list,
          reference ∈ contents.vertexIndex) ∧
        contents.cellIndex.Nodup ∧ (∀ index ∈ contents.cellIndex, 0 ≤ index) ∧
        filled = { start with
          cells := ⟨contents.cellRows, Table.topOf contents.cellIndex, .none⟩ } := by
  have cellKeys := Contents.map_fst_cellRows addresses areas offsets
  have natural : (∀ row ∈ contents.cellRows, 0 ≤ row.1 ∧ row.1 ∉ start.cells.keys) ↔
      ∀ index ∈ contents.cellIndex, 0 ≤ index := by
    rw [← cellKeys, List.forall_mem_map]
    simp [none, Table.keys]
  have named : (∀ row ∈ contents.cellRows, ∀ reference ∈ row.2.vertices, start.Names reference) ↔
      ∀ list ∈ referenceLists contents.references contents.offsets, ∀ reference ∈ list,
        reference ∈ contents.vertexIndex := by
    have lists := Contents.map_vertices_cellRows addresses areas offsets
    rw [← List.forall_mem_map (f := fun row : Int × Cell α => row.2.vertices)
      (P := fun references => ∀ reference ∈ references, start.Names reference), lists]
    simp only [List.forall_mem_map, Mesh.names_int, keys]
  rw [Mesh.foldlM_insertCell_eq_ok_iff Cell.vertices, named]
  refine and_congr_right fun _ => ?_
  have unfixed : start.cells.fixedExtent = .none := by rw [none]
  simp only [Table.foldlM_insert_eq_ok_iff .cell contents.cellRows unfixed, cellKeys, natural]
  constructor
  · rintro ⟨table, ⟨distinct, fits, rfl⟩, rfl⟩
    refine ⟨distinct, fits, ?_⟩
    simp [Table.append, none, cellKeys, Table.topOf]
  · rintro ⟨distinct, fits, rfl⟩
    refine ⟨_, ⟨distinct, fits, rfl⟩, ?_⟩
    simp [Table.append, none, cellKeys, Table.topOf]

omit [Scalar α] in
/-- Inserting all rows and fixing both extents gives the mesh of the contents, or nothing. -/
theorem fill_eq_ok_iff (contents : Contents α) (mesh : Grid α)
    (points : contents.points.length = contents.vertexIndex.length)
    (addresses : contents.addresses.length = contents.cellIndex.length)
    (areas : contents.areas.length = contents.cellIndex.length)
    (offsets : contents.offsets.length = contents.cellIndex.length + 1) :
    (∃ filled, contents.vertexRows.foldlM (fun grid row => grid.insertVertex row.1 row.2)
          contents.blank = .ok filled ∧
        ∃ cells, contents.cellRows.foldlM
            (fun grid row => grid.insertCell row.2.vertices row.1 row.2) filled = .ok cells ∧
          ∃ fixed, cells.fixExtent .cell (.int contents.cellExtent) = .ok fixed ∧
            fixed.fixExtent .vertex (.int contents.vertexExtent) = .ok mesh) ↔
      (contents.vertexIndex.Nodup ∧ (∀ index ∈ contents.vertexIndex, 0 ≤ index) ∧
        contents.cellIndex.Nodup ∧ (∀ index ∈ contents.cellIndex, 0 ≤ index) ∧
        (0 ≤ contents.cellExtent ∧ ∀ index ∈ contents.cellIndex, index < contents.cellExtent) ∧
        (0 ≤ contents.vertexExtent ∧
          ∀ index ∈ contents.vertexIndex, index < contents.vertexExtent)) ∧
        (∀ list ∈ referenceLists contents.references contents.offsets, ∀ reference ∈ list,
          reference ∈ contents.vertexIndex) ∧ mesh = contents.mesh := by
  have vertexKeys := Contents.map_fst_vertexRows points
  have cellKeys := Contents.map_fst_cellRows addresses areas offsets
  simp only [foldlM_vertexRows_eq_ok_iff contents points, Mesh.fixExtent_cell_eq_ok_iff,
    Mesh.fixExtent_vertex_eq_ok_iff]
  constructor
  · rintro ⟨_, ⟨vertexDistinct, vertexNatural, rfl⟩, _, cellsDone, _, ⟨cellLeast, cellAbove, rfl⟩,
      vertexLeast, vertexAbove, rfl⟩
    obtain ⟨listed, cellDistinct, cellNatural, rfl⟩ :=
      (foldlM_cellRows_eq_ok_iff contents addresses areas offsets rfl
        (by rw [Table.keys]; exact vertexKeys) _).mp cellsDone
    refine ⟨⟨vertexDistinct, vertexNatural, cellDistinct, cellNatural,
      ⟨cellLeast, (Table.topOf_lt_iff cellLeast).mp cellAbove⟩,
      ⟨vertexLeast, (Table.topOf_lt_iff vertexLeast).mp vertexAbove⟩⟩, listed, ?_⟩
    simp [Contents.mesh, Contents.blank, vertexKeys, cellKeys]
  · rintro ⟨⟨vertexDistinct, vertexNatural, cellDistinct, cellNatural, ⟨cellLeast, cellAbove⟩,
      vertexLeast, vertexAbove⟩, listed, rfl⟩
    refine ⟨_, ⟨vertexDistinct, vertexNatural, rfl⟩, _,
      (foldlM_cellRows_eq_ok_iff contents addresses areas offsets rfl
        (by rw [Table.keys]; exact vertexKeys) _).mpr ⟨listed, cellDistinct, cellNatural, rfl⟩, _,
      ⟨cellLeast, (Table.topOf_lt_iff cellLeast).mpr cellAbove, rfl⟩, vertexLeast,
      (Table.topOf_lt_iff vertexLeast).mpr vertexAbove, ?_⟩
    simp [Contents.mesh, Contents.blank, vertexKeys, cellKeys]

/-! ### The dataset as a whole -/

/-- The steps in which a dataset is read, one after the other. -/
theorem decode_eq_steps : decode keeper dataset group = (do
    let info ← fetch keeper dataset (infoVariable group)
    let stored ← infoInteger group info "version"
    if version < stored then .error (.versionTooNew group stored version) else
    let tags ← wrapValue (Error.infoMalformed group) (readInfo keeper group info)
    let projection ← readProjection group info tags.coordinates
    let name ← readName keeper info
    let grid ← Mesh.create (.text name) tags.type tags.coordinates tags.parameterization
      (.text projection)
    let filled ← readVertices keeper group dataset grid
    readCells keeper group dataset tags filled) := by
  unfold decode
  refine bind_congr fun info => bind_congr fun stored => ?_
  by_cases newer : version < stored
  · simp only [if_pos newer]
    rfl
  · simp only [if_neg newer]
    refine bind_congr fun tags => ?_
    unfold readProjection readName
    cases tags.coordinates <;> cases info.get? "name" <;> simp only [bind_assoc]

/-- A dataset is read in nine steps, each of which has to give an answer. -/
theorem decode_eq_ok_iff_steps (grid : Grid α) :
    decode keeper dataset group = .ok grid ↔
      ∃ info, dataset.get? (infoVariable group) = some info ∧
        ∃ stored, infoInteger group info "version" = .ok stored ∧ stored ≤ version ∧
        ∃ tags, readInfo keeper group info = .ok tags ∧
        ∃ projection, readProjection group info tags.coordinates = .ok projection ∧
        ∃ name, readName keeper info = .ok name ∧
        ∃ empty, Mesh.create (.text name) tags.type tags.coordinates tags.parameterization
          (.text projection) = .ok empty ∧
        ∃ filled, readVertices keeper group dataset empty = .ok filled ∧
          readCells keeper group dataset tags filled = .ok grid := by
  simp only [decode_eq_steps, bind_eq_ok_iff, fetch_eq_ok_iff, ite_error_eq_ok_iff, Int.not_lt,
    wrapValue_eq_ok_iff]

/-- What is read after the attributes is stored, and a reader admits it. -/
theorem exists_contents_of_arrays (typed : WellTyped dataset group) {head : Contents α}
    {info : Variable α} (found : dataset.get? (infoVariable group) = some info)
    (stored : StoresInfo keeper info head)
    (present : head.coordinates = .xy → head.projection ≠ "") {filled grid : Grid α}
    (verticesRead : readVertices keeper group dataset head.blank = .ok filled)
    (cellsRead : readCells keeper group dataset head.info filled = .ok grid) :
    ∃ contents, Stores keeper dataset group contents ∧ contents.Readable ∧
      grid = contents.mesh := by
  obtain ⟨vertexIndex, hasVertexIndex, pointRows, points, hasPoints, pointCount, verticesDone⟩ :=
    (readVertices_eq_ok_iff _ _).mp verticesRead
  obtain ⟨cellIndex, hasCellIndex, addressRows, addresses, hasAddresses, areas, hasAreas,
    references, hasReferences, offsets, hasOffsets, ⟨addressCount, areaCount⟩, fits, cellsDone⟩ :=
    (readCells_eq_ok_iff _ _ _).mp cellsRead
  let contents : Contents α :=
    { head with
      vertexIndex := vertexIndex.toIntegers, points := pairs points.toReals
      cellIndex := cellIndex.toIntegers, addresses := triples addresses.toIntegers
      areas := areas.toReals, references := references.toIntegers
      offsets := offsets.toIntegers }
  have pointsLength : contents.points.length = contents.vertexIndex.length := by
    rw [hasPoints.length_pairs (typed.rectangular .vertexPoints), pointCount, length_toIntegers]
  have addressesLength : contents.addresses.length = contents.cellIndex.length := by
    rw [hasAddresses.length_triples (typed.rectangular .cellAddress), addressCount,
      length_toIntegers]
  have areasLength : contents.areas.length = contents.cellIndex.length := by
    rw [length_toReals, length_toIntegers, areaCount]
  rw [← length_toIntegers cellIndex, ← length_toIntegers references] at fits
  have offsetsLength : contents.offsets.length = contents.cellIndex.length + 1 :=
    ((Contents.offsetsFit_iff ..).mp fits).1
  obtain ⟨⟨vertexDistinct, vertexNatural, cellDistinct, cellNatural, cellFits, vertexFits⟩,
    listed, same⟩ := (fill_eq_ok_iff contents grid pointsLength addressesLength areasLength
      offsetsLength).mp ⟨filled, verticesDone, cellsDone⟩
  refine ⟨contents, ?_, ?_, same⟩
  · exact
      { info := ⟨info, found, { stored with }⟩
        vertexIndex := ⟨_, hasVertexIndex, rfl⟩
        points := ⟨_, _, hasPoints, rfl⟩
        cellIndex := ⟨_, hasCellIndex, rfl⟩
        addresses := ⟨_, _, hasAddresses, rfl⟩
        areas := ⟨_, hasAreas, rfl⟩
        references := ⟨_, hasReferences, rfl⟩
        offsets := ⟨_, hasOffsets, rfl⟩ }
  · exact ⟨⟨present, pointsLength, addressesLength, areasLength, vertexDistinct, vertexNatural,
      cellDistinct, cellNatural, cellFits, vertexFits⟩, fits, listed⟩

/-- Stored arrays that a reader admits are read after the attributes. -/
theorem Stores.exists_arrays {contents : Contents α} (typed : WellTyped dataset group)
    (stores : Stores keeper dataset group contents) (readable : contents.Readable) :
    ∃ filled, readVertices keeper group dataset contents.blank = .ok filled ∧
      readCells keeper group dataset contents.info filled = .ok contents.mesh := by
  obtain ⟨tabular, fits, listed⟩ := readable
  obtain ⟨vertexIndex, hasVertexIndex, sameVertexIndex⟩ := stores.vertexIndex
  obtain ⟨pointRows, points, hasPoints, samePoints⟩ := stores.points
  obtain ⟨cellIndex, hasCellIndex, sameCellIndex⟩ := stores.cellIndex
  obtain ⟨addressRows, addresses, hasAddresses, sameAddresses⟩ := stores.addresses
  obtain ⟨areas, hasAreas, sameAreas⟩ := stores.areas
  obtain ⟨references, hasReferences, sameReferences⟩ := stores.references
  obtain ⟨offsets, hasOffsets, sameOffsets⟩ := stores.offsets
  obtain ⟨filled, verticesDone, cellsDone⟩ := (fill_eq_ok_iff contents contents.mesh
    tabular.points tabular.addresses tabular.areas ((Contents.offsetsFit_iff ..).mp fits).1).mpr
    ⟨⟨tabular.vertexDistinct, tabular.vertexNatural, tabular.cellDistinct, tabular.cellNatural,
      tabular.cellExtent, tabular.vertexExtent⟩, listed, rfl⟩
  have vertexCount : vertexIndex.length = contents.vertexIndex.length := by
    rw [← sameVertexIndex, length_toIntegers]
  have cellCount : cellIndex.length = contents.cellIndex.length := by
    rw [← sameCellIndex, length_toIntegers]
  have referenceCount : references.length = contents.references.length := by
    rw [← sameReferences, length_toIntegers]
  have pointCount : pointRows = vertexIndex.length := by
    rw [vertexCount, ← tabular.points, ← samePoints,
      hasPoints.length_pairs (typed.rectangular .vertexPoints)]
  have addressCount : addressRows = cellIndex.length := by
    rw [cellCount, ← tabular.addresses, ← sameAddresses,
      hasAddresses.length_triples (typed.rectangular .cellAddress)]
  have areaCount : areas.length = cellIndex.length := by
    rw [cellCount, ← tabular.areas, ← sameAreas, length_toReals]
  refine ⟨filled, (readVertices_eq_ok_iff _ _).mpr ?_, (readCells_eq_ok_iff _ _ _).mpr ?_⟩
  · refine ⟨vertexIndex, hasVertexIndex, pointRows, points, hasPoints, pointCount, ?_⟩
    rw [sameVertexIndex, samePoints]
    exact verticesDone
  · refine ⟨cellIndex, hasCellIndex, addressRows, addresses, hasAddresses, areas, hasAreas,
      references, hasReferences, offsets, hasOffsets, ⟨addressCount, areaCount⟩, ?_, ?_⟩
    · rw [cellCount, referenceCount, sameOffsets]
      exact fits
    · rw [sameCellIndex, sameAddresses, sameAreas, sameReferences, sameOffsets]
      exact cellsDone

/-- A dataset is read as the mesh of the contents that it stores, provided that a reader admits
them. -/
theorem decode_eq_ok_iff (typed : WellTyped dataset group) (grid : Grid α) :
    decode keeper dataset group = .ok grid ↔
      ∃ contents, Stores keeper dataset group contents ∧ contents.Readable ∧
        grid = contents.mesh := by
  rw [decode_eq_ok_iff_steps]
  constructor
  · rintro ⟨info, found, stored, versionRead, supported, tags, tagsRead, projection,
      projectionRead, name, nameRead, empty, created, filled, verticesRead, cellsRead⟩
    have version := (infoInteger_eq_ok_iff (typed.integers info found "version" (by simp)) _).mp
      versionRead
    obtain ⟨type, coordinates, parameterization, cellExtent, vertexExtent⟩ :=
      (readInfo_eq_ok_iff typed found tags).mp tagsRead
    obtain ⟨planar, absent⟩ :=
      (readProjection_eq_ok_iff typed found _ projection).mp projectionRead
    obtain ⟨named, unnamed⟩ := (readName_eq_ok_iff info name).mp nameRead
    obtain ⟨present, rfl⟩ := (create_eq_ok_iff _ _ _ _ _ _ absent).mp created
    let head : Contents α :=
      ⟨name, tags.type, tags.coordinates, tags.parameterization, projection, tags.cellExtent,
        tags.vertexExtent, [], [], [], [], [], [], []⟩
    have storesInfo : StoresInfo keeper info head :=
      ⟨⟨stored, supported, version⟩, type, coordinates, parameterization, cellExtent,
        vertexExtent, planar, absent, named, unnamed⟩
    exact exists_contents_of_arrays typed found storesInfo present verticesRead cellsRead
  · rintro ⟨contents, stores, readable, rfl⟩
    obtain ⟨info, found, stored⟩ := stores.info
    obtain ⟨version, supported, hasVersion⟩ := stored.version
    have versionRead : infoInteger group info "version" = .ok version :=
      (infoInteger_eq_ok_iff (typed.integers info found "version" (by simp)) _).mpr hasVersion
    have tagsRead : readInfo keeper group info = .ok contents.info :=
      (readInfo_eq_ok_iff typed found _).mpr ⟨stored.type, stored.coordinates,
        stored.parameterization, stored.cellExtent, stored.vertexExtent⟩
    have projectionRead := (readProjection_eq_ok_iff typed found contents.coordinates _).mpr
      ⟨stored.projectionPresent, stored.projectionAbsent⟩
    have nameRead := (readName_eq_ok_iff info _).mpr ⟨stored.namePresent, stored.nameAbsent⟩
    have created := (create_eq_ok_iff contents.name contents.projection contents.type
      contents.coordinates contents.parameterization contents.blank stored.projectionAbsent).mpr
      ⟨readable.projection, rfl⟩
    obtain ⟨filled, verticesRead, cellsRead⟩ := stores.exists_arrays typed readable
    exact ⟨info, found, version, versionRead, supported, contents.info, tagsRead, _,
      projectionRead, _, nameRead, contents.blank, created, filled, verticesRead, cellsRead⟩

end Regrid.GridTables
