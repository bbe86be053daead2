import Regrid.Proofs.Mesh.Insertion
import Regrid.Proofs.Store.Offsets

/-!
Contract: what a dataset says about one mesh, apart from any way of reading it.

Owns:
- the tables and attributes of a stored mesh as plain lists, and the mesh that they describe;
- when a dataset stores them, and when they are admitted as a mesh;
- reading one attribute or one array.

Does not own: the reading of a dataset as a whole.
-/

namespace Regrid.GridTables

open Regrid.Schema Attempt

variable {α : Type}

/-- The tables and attributes of a stored mesh. -/
structure Contents (α : Type) where
  name : String
  type : GridType
  coordinates : Coordinates
  parameterization : Parameterization
  projection : String
  cellExtent : Int
  vertexExtent : Int
  vertexIndex : List Int
  points : List (α × α)
  cellIndex : List Int
  addresses : List (Int × Int × Int)
  areas : List α
  references : List Int
  offsets : List Int

def vertexRow (row : Int × α × α) : Int × Vertex α := (row.1, ⟨row.2.1, row.2.2, .int row.1⟩)

def cellRow (row : Int × (Int × Int × Int) × α × List Int) : Int × Cell α :=
  (row.1, ⟨row.2.2.2.map .int, .int row.1, .int row.2.1.1, .int row.2.1.2.1, .int row.2.1.2.2,
    row.2.2.1⟩)

namespace Contents

def vertexRows (contents : Contents α) : List (Int × Vertex α) :=
  (contents.vertexIndex.zip contents.points).map vertexRow

def cellRows (contents : Contents α) : List (Int × Cell α) :=
  (contents.cellIndex.zip (contents.addresses.zip (contents.areas.zip
    (referenceLists contents.references contents.offsets)))).map cellRow

/-- The mesh with the rows in their order. -/
def mesh (contents : Contents α) : Grid α where
  name := .text contents.name
  type := contents.type
  coordinates := contents.coordinates
  parameterization := contents.parameterization
  projection := .text contents.projection
  vertices := ⟨contents.vertexRows, Table.topOf (contents.vertexRows.map (·.1)),
    some contents.vertexExtent⟩
  cells := ⟨contents.cellRows, Table.topOf (contents.cellRows.map (·.1)),
    some contents.cellExtent⟩

/-- The tables have one length each, indices are natural and differ, extents lie above them,
and planar coordinates have a projection. -/
structure Tabular (contents : Contents α) : Prop where
  projection : contents.coordinates = .xy → contents.projection ≠ ""
  points : contents.points.length = contents.vertexIndex.length
  addresses : contents.addresses.length = contents.cellIndex.length
  areas : contents.areas.length = contents.cellIndex.length
  vertexDistinct : contents.vertexIndex.Nodup
  vertexNatural : ∀ index ∈ contents.vertexIndex, 0 ≤ index
  cellDistinct : contents.cellIndex.Nodup
  cellNatural : ∀ index ∈ contents.cellIndex, 0 ≤ index
  cellExtent : 0 ≤ contents.cellExtent ∧ ∀ index ∈ contents.cellIndex, index < contents.cellExtent
  vertexExtent : 0 ≤ contents.vertexExtent ∧
    ∀ index ∈ contents.vertexIndex, index < contents.vertexExtent

/-- The format admits the contents: the offsets cut the references into one list for each
cell, and every reference is the index of a vertex. -/
structure Admitted (contents : Contents α) : Prop extends Tabular contents where
  offsets : contents.offsets.length = contents.cellIndex.length + 1
  cuts : Cuts contents.references.length contents.offsets
  references : ∀ reference ∈ contents.references, reference ∈ contents.vertexIndex

/-- A reader admits the contents: it looks at differences of offsets that wrap around, and at
the references that it finds between offsets. -/
structure Readable (contents : Contents α) : Prop extends Tabular contents where
  fits : offsetsFit contents.cellIndex.length contents.references.length contents.offsets = true
  references : ∀ list ∈ referenceLists contents.references contents.offsets,
    ∀ reference ∈ list, reference ∈ contents.vertexIndex

theorem offsetsFit_iff (cellCount referenceCount : Nat) (offsets : List Int) :
    offsetsFit cellCount referenceCount offsets = true ↔
      offsets.length = cellCount + 1 ∧ offsets.head? = some 0 ∧
        offsets.getLast? = some (referenceCount : Int) ∧
        ((differences offsets).all fun step => 0 ≤ step) = true := by
  simp [offsetsFit, and_assoc]

/-- Where neighbouring offsets differ by what 64 bits hold, a reader admits what the format
admits. -/
theorem readable_iff_admitted {contents : Contents α} (fit : StepsFit contents.offsets) :
    contents.Readable ↔ contents.Admitted := by
  constructor
  · rintro ⟨tabular, fits, listed⟩
    obtain ⟨length, first, last, steps⟩ := (offsetsFit_iff ..).mp fits
    have cuts : Cuts contents.references.length contents.offsets :=
      ⟨first, (all_differences_iff fit).mp steps, last⟩
    refine ⟨tabular, length, cuts, fun reference member => ?_⟩
    rw [← cuts.flatten] at member
    obtain ⟨list, listMember, member⟩ := List.mem_flatten.mp member
    exact listed list listMember reference member
  · rintro ⟨tabular, length, cuts, named⟩
    refine ⟨tabular, (offsetsFit_iff ..).mpr ⟨length, cuts.first, cuts.last,
      (all_differences_iff fit).mpr cuts.ascending⟩, fun list listMember reference member => ?_⟩
    refine named reference ?_
    rw [← cuts.flatten]
    exact List.mem_flatten.mpr ⟨list, listMember, member⟩

/-! ### The rows in their order -/

theorem map_fst_vertexRows {contents : Contents α}
    (points : contents.points.length = contents.vertexIndex.length) :
    contents.vertexRows.map (·.1) = contents.vertexIndex := by
  rw [vertexRows, List.map_map]
  exact List.map_fst_zip (by omega)

private theorem map_zip_parts {ι κ μ τ : Type} (first : List ι) (second : List κ) (third : List μ)
    (fourth : List τ) (secondLength : second.length = first.length)
    (thirdLength : third.length = first.length) (fourthLength : fourth.length = first.length) :
    let rows := first.zip (second.zip (third.zip fourth))
    rows.map (·.1) = first ∧ rows.map (·.2.1) = second ∧ rows.map (·.2.2.1) = third ∧
      rows.map (·.2.2.2) = fourth := by
  intro rows
  have later : rows.map (·.2) = second.zip (third.zip fourth) :=
    List.map_snd_zip (by simp only [List.length_zip]; omega)
  have heads : (second.zip (third.zip fourth)).map (·.1) = second :=
    List.map_fst_zip (by simp only [List.length_zip]; omega)
  have last : (second.zip (third.zip fourth)).map (·.2) = third.zip fourth :=
    List.map_snd_zip (by simp only [List.length_zip]; omega)
  have thirds : (third.zip fourth).map (·.1) = third := List.map_fst_zip (by omega)
  have fourths : (third.zip fourth).map (·.2) = fourth := List.map_snd_zip (by omega)
  refine ⟨List.map_fst_zip (by simp only [List.length_zip]; omega), ?_, ?_, ?_⟩
  · rw [← later, List.map_map] at heads
    exact heads
  · rw [← last, ← later, List.map_map, List.map_map] at thirds
    exact thirds
  · rw [← last, ← later, List.map_map, List.map_map] at fourths
    exact fourths

theorem items_vertices_mesh {contents : Contents α}
    (points : contents.points.length = contents.vertexIndex.length) :
    contents.mesh.vertices.items.map Vertex.point = contents.points := by
  simp only [mesh, Table.items, vertexRows, List.map_map]
  exact List.map_snd_zip (by omega)

variable {contents : Contents α}
  (addresses : contents.addresses.length = contents.cellIndex.length)
  (areas : contents.areas.length = contents.cellIndex.length)
  (offsets : contents.offsets.length = contents.cellIndex.length + 1)

include addresses areas offsets

/-- The four columns of the table of cells, read back from its rows. -/
theorem columns_cellRows :
    contents.cellRows.map (·.1) = contents.cellIndex ∧
      contents.cellRows.map (·.2.address) = contents.addresses.map
        (fun address => [.int address.1, .int address.2.1, .int address.2.2]) ∧
      contents.cellRows.map (·.2.area) = contents.areas ∧
      contents.cellRows.map (·.2.vertices) =
        (referenceLists contents.references contents.offsets).map (·.map .int) := by
  obtain ⟨first, second, third, fourth⟩ := map_zip_parts contents.cellIndex contents.addresses
    contents.areas (referenceLists contents.references contents.offsets) addresses areas
    (by rw [length_referenceLists]; omega)
  simp only [cellRows, List.map_map]
  refine ⟨first, ?_, third, ?_⟩
  · conv_rhs => rw [← second, List.map_map]
    rfl
  · conv_rhs => rw [← fourth, List.map_map]
    rfl

theorem map_fst_cellRows : contents.cellRows.map (·.1) = contents.cellIndex :=
  (columns_cellRows addresses areas offsets).1

theorem map_vertices_cellRows :
    contents.cellRows.map (·.2.vertices) =
      (referenceLists contents.references contents.offsets).map (·.map .int) :=
  (columns_cellRows addresses areas offsets).2.2.2

/-- The vertex lists of the cells, one after the other, are the references of the file. -/
theorem flatMap_vertices_cellRows (cuts : Cuts contents.references.length contents.offsets) :
    contents.mesh.cells.items.flatMap Cell.vertices = contents.references.map .int := by
  have lists := map_vertices_cellRows addresses areas offsets
  have items : contents.mesh.cells.items.map Cell.vertices =
      contents.cellRows.map (·.2.vertices) := by
    simp [mesh, Table.items]
  rw [List.flatMap_def, items, lists, ← List.map_flatten, cuts.flatten]

end Contents

/-! ### Attributes -/

/-- An attribute is present and holds an integer. -/
def HasInteger (info : Variable α) (key : String) (n : Int) : Prop :=
  ∃ stored, info.get? key = some stored ∧ stored.unwrapped.value = .int n

/-- An attribute is present and holds a text. -/
def HasText (info : Variable α) (key : String) (text : String) : Prop :=
  ∃ stored, info.get? key = some stored ∧ stored.unwrapped.value = .text text

/-- An attribute is present and spells a tag. -/
def HasTag {τ : Type} [TagFamily τ] (info : Variable α) (key : InfoKey) (tag : τ) : Prop :=
  ∃ text, HasText info key.name text ∧ readTag (.text text) = .ok tag

/-- The attributes say what the contents say. -/
structure StoresInfo (keeper : Keeper) (info : Variable α) (contents : Contents α) : Prop where
  version : ∃ n ≤ Schema.version, HasInteger info "version" n
  type : HasTag info .type contents.type
  coordinates : HasTag info .coordinates contents.coordinates
  parameterization : HasTag info .parameterization contents.parameterization
  cellExtent : HasInteger info InfoKey.cellExtent.name contents.cellExtent
  vertexExtent : HasInteger info InfoKey.vertexExtent.name contents.vertexExtent
  projectionPresent : contents.coordinates = .xy →
    HasText info InfoKey.projection.name contents.projection
  projectionAbsent : contents.coordinates = .lonLat → contents.projection = ""
  namePresent : ∀ stored, info.get? "name" = some stored →
    keeper.labelOf stored = .ok contents.name
  nameAbsent : info.get? "name" = none → contents.name = ""

/-! ### Arrays -/

/-- A variable is present and a vector. -/
def HasVector (dataset : Dataset α) (name : String) (column : Column α) : Prop :=
  ∃ var, dataset.get? name = some var ∧ var.shape.length = 1 ∧ var.column = column

/-- A variable is present and has rows of a given width, or no elements. -/
def HasColumns (width : Nat) (dataset : Dataset α) (name : String) (rows : Nat)
    (column : Column α) : Prop :=
  ∃ var, dataset.get? name = some var ∧ var.column = column ∧
    (column.length = 0 ∧ rows = 0 ∨ column.length ≠ 0 ∧ var.shape = [rows, width])

theorem length_pairs {β : Type} (items : List β) (rows : Nat) (length : items.length = rows * 2) :
    (pairs items).length = rows := by
  fun_induction pairs items generalizing rows with
  | case1 x y rest inductionHypothesis =>
      simp only [List.length_cons] at length ⊢
      have shorter := inductionHypothesis (rows - 1) (by omega)
      omega
  | case2 items short =>
      match items with
      | [] | [_] =>
          simp only [List.length_cons, List.length_nil] at length ⊢
          omega
      | x :: y :: rest => exact absurd rfl (short x y rest)

theorem length_triples {β : Type} (items : List β) (rows : Nat)
    (length : items.length = rows * 3) : (triples items).length = rows := by
  fun_induction triples items generalizing rows with
  | case1 x y z rest inductionHypothesis =>
      simp only [List.length_cons] at length ⊢
      have shorter := inductionHypothesis (rows - 1) (by omega)
      omega
  | case2 items short =>
      match items with
      | [] | [_] | [_, _] =>
          simp only [List.length_cons, List.length_nil] at length ⊢
          omega
      | x :: y :: z :: rest => exact absurd rfl (short x y z rest)

/-- Rectangular rows have as many elements as their number and width say. -/
theorem HasColumns.length_eq {width rows : Nat} {dataset : Dataset α} {name : String}
    {column : Column α} (stored : HasColumns width dataset name rows column)
    (rectangular : ∀ var, dataset.get? name = some var →
      Tensor.volume var.shape = var.column.length) : column.length = rows * width := by
  obtain ⟨var, found, rfl, ⟨empty, rfl⟩ | ⟨_, shape⟩⟩ := stored
  · omega
  · rw [← rectangular var found, shape]
    simp [Tensor.volume]

variable [Scalar α]

@[simp]
theorem length_toIntegers (column : Column α) : column.toIntegers.length = column.length := by
  cases column <;> simp [Column.toIntegers, Column.length]

@[simp]
theorem length_toReals (column : Column α) : column.toReals.length = column.length := by
  cases column <;> simp [Column.toReals, Column.length]

theorem HasColumns.length_pairs {rows : Nat} {dataset : Dataset α} {name : String}
    {column : Column α} (stored : HasColumns 2 dataset name rows column)
    (rectangular : ∀ var, dataset.get? name = some var →
      Tensor.volume var.shape = var.column.length) : (pairs column.toReals).length = rows :=
  GridTables.length_pairs _ _ ((length_toReals column).trans (stored.length_eq rectangular))

theorem HasColumns.length_triples {rows : Nat} {dataset : Dataset α} {name : String}
    {column : Column α} (stored : HasColumns 3 dataset name rows column)
    (rectangular : ∀ var, dataset.get? name = some var →
      Tensor.volume var.shape = var.column.length) : (triples column.toIntegers).length = rows :=
  GridTables.length_triples _ _
    ((length_toIntegers column).trans (stored.length_eq rectangular))

/-- A dataset stores the contents under a group name. -/
structure Stores (keeper : Keeper) (dataset : Dataset α) (group : String)
    (contents : Contents α) : Prop where
  info : ∃ info, dataset.get? (infoVariable group) = some info ∧ StoresInfo keeper info contents
  vertexIndex : ∃ column, HasVector dataset (Part.vertexIndex.fullName group) column ∧
    column.toIntegers = contents.vertexIndex
  points : ∃ rows column, HasColumns 2 dataset (Part.vertexPoints.fullName group) rows column ∧
    pairs column.toReals = contents.points
  cellIndex : ∃ column, HasVector dataset (Part.cellIndex.fullName group) column ∧
    column.toIntegers = contents.cellIndex
  addresses : ∃ rows column, HasColumns 3 dataset (Part.cellAddress.fullName group) rows column ∧
    triples column.toIntegers = contents.addresses
  areas : ∃ column, HasVector dataset (Part.cellArea.fullName group) column ∧
    column.toReals = contents.areas
  references : ∃ column, HasVector dataset (Part.references.fullName group) column ∧
    column.toIntegers = contents.references
  offsets : ∃ column, HasVector dataset (Part.offsets.fullName group) column ∧
    column.toIntegers = contents.offsets

/-- The arrays of a group are rectangular, those of indices, addresses, references and offsets
hold integers of their type, and the attributes are integers and texts where they should be. -/
structure WellTyped (dataset : Dataset α) (group : String) : Prop where
  rectangular : ∀ (part : Part) var, dataset.get? (part.fullName group) = some var →
    Tensor.volume var.shape = var.column.length
  words : ∀ part ∈ [Part.vertexIndex, .cellIndex, .cellAddress, .references, .offsets],
    ∀ var, dataset.get? (part.fullName group) = some var →
      ∃ type items, var.column = .integers type items ∧
        ∀ n ∈ items, -(type.limit : Int) ≤ n ∧ n < type.limit
  integers : ∀ info, dataset.get? (infoVariable group) = some info →
    ∀ key ∈ ["version", InfoKey.cellExtent.name, InfoKey.vertexExtent.name],
      ∀ stored, info.get? key = some stored → ∃ n, stored.unwrapped.value = .int n
  texts : ∀ info, dataset.get? (infoVariable group) = some info →
    ∀ key ∈ [InfoKey.type, .coordinates, .parameterization, .projection],
      ∀ stored, info.get? key.name = some stored → ∃ text, stored.unwrapped.value = .text text

end Regrid.GridTables
