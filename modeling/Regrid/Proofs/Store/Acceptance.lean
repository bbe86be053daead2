import Regrid.Proofs.Store.Decoding
import Regrid.Scalar.Rational

/-!
Contract: which datasets are read as a mesh, and that nothing is lost or made up in between.

Owns:
- the format of a dataset as a condition for being read, up to offsets whose differences do not
  fit 64 bits;
- a dataset whose offsets fall and that is read nevertheless.

Does not own: the readers.
-/

namespace Regrid.GridTables

open Regrid.Schema

variable {α : Type} [Scalar α] {keeper : Keeper} {dataset : Dataset α} {group : String}

/-- Neighbouring offsets that a dataset stores differ by what 64 bits hold. -/
def StoredStepsFit (dataset : Dataset α) (group : String) : Prop :=
  ∀ column, HasVector dataset (Part.offsets.fullName group) column → StepsFit column.toIntegers

theorem Stores.stepsFit {contents : Contents α} (stores : Stores keeper dataset group contents)
    (fit : StoredStepsFit dataset group) : StepsFit contents.offsets := by
  obtain ⟨column, hasOffsets, same⟩ := stores.offsets
  rw [← same]
  exact fit column hasOffsets

/-- Stored offsets that cut the references have steps that fit, since the last one of them is
stored in at most 64 bits. -/
theorem Stores.storedStepsFit {contents : Contents α} (typed : WellTyped dataset group)
    (stores : Stores keeper dataset group contents)
    (cuts : Cuts contents.references.length contents.offsets) : StoredStepsFit dataset group := by
  obtain ⟨_, ⟨var, found, _, rfl⟩, same⟩ := stores.offsets
  rintro _ ⟨other, otherFound, _, rfl⟩
  cases found.symm.trans otherFound
  obtain ⟨type, items, column, bounded⟩ := typed.words .offsets (by simp) var found
  rw [same]
  refine cuts.stepsFit ?_
  have last := List.mem_of_getLast? cuts.last
  rw [← same, column, Column.toIntegers] at last
  have below := (bounded _ last).2
  have limit : type.limit ≤ 0x8000000000000000 := by cases type <;> decide
  omega

/-- A dataset whose neighbouring offsets differ by what 64 bits hold is read as a mesh exactly
when it stores contents that the format admits. The mesh has the rows of the dataset in their
order, its cells refer one after the other to what the dataset lists, and its extents are those
of the dataset. -/
theorem decode_iff_admitted (typed : WellTyped dataset group) (grid : Grid α) :
    decode keeper dataset group = .ok grid ∧ StoredStepsFit dataset group ↔
      ∃ contents, Stores keeper dataset group contents ∧ contents.Admitted ∧
        grid = contents.mesh ∧
        grid.vertices.keys = contents.vertexIndex ∧
        grid.vertices.items.map Vertex.point = contents.points ∧
        grid.cells.keys = contents.cellIndex ∧
        grid.cells.items.map Cell.address = contents.addresses.map
          (fun address => [.int address.1, .int address.2.1, .int address.2.2]) ∧
        grid.cells.items.map Cell.area = contents.areas ∧
        grid.cells.items.flatMap Cell.vertices = contents.references.map .int ∧
        grid.cells.extent = contents.cellExtent ∧
        grid.vertices.extent = contents.vertexExtent := by
  constructor
  · rintro ⟨read, fit⟩
    obtain ⟨contents, stores, readable, rfl⟩ := (decode_eq_ok_iff typed grid).mp read
    have admitted := (Contents.readable_iff_admitted (stores.stepsFit fit)).mp readable
    obtain ⟨cellKeys, addresses, areas, _⟩ :=
      Contents.columns_cellRows admitted.addresses admitted.areas admitted.offsets
    exact ⟨contents, stores, admitted, rfl, Contents.map_fst_vertexRows admitted.points,
      Contents.items_vertices_mesh admitted.points, cellKeys, List.map_map.trans addresses,
      List.map_map.trans areas,
      Contents.flatMap_vertices_cellRows admitted.addresses admitted.areas admitted.offsets
        admitted.cuts, rfl, rfl⟩
  · rintro ⟨contents, stores, admitted, rfl, -⟩
    have fit := stores.storedStepsFit typed admitted.cuts
    exact ⟨(decode_eq_ok_iff typed _).mpr ⟨contents, stores,
      (Contents.readable_iff_admitted (stores.stepsFit fit)).mpr admitted, rfl⟩, fit⟩

/-! ### Offsets that fall -/

/-- Three cells with six references, and the given offsets. -/
def sampleDataset (offsets : List Int) : Dataset Rat where
  entries := [
    ("g.info", ⟨["one"], [1], .integers .int32 [0],
      [("version", .short 1), ("type", .text "GENERIC"), ("coordinates", .text "LONLAT"),
        ("parameterization", .text "L0"), ("cells.num_full", .short 3),
        ("vertices.num_full", .short 3)]⟩),
    ("g.vertices.index", ⟨["vertices"], [3], .integers .int32 [0, 1, 2], []⟩),
    ("g.vertices.xy", ⟨["vertices", "two"], [3, 2], .reals [0, 0, 1, 0, 0, 1], []⟩),
    ("g.cells.index", ⟨["cells"], [3], .integers .int32 [0, 1, 2], []⟩),
    ("g.cells.ijk", ⟨["cells", "three"], [3, 3],
      .integers .int32 [0, 0, 0, 1, 0, 0, 2, 0, 0], []⟩),
    ("g.cells.area", ⟨["cells"], [3], .reals [0, 0, 0], []⟩),
    ("g.cells.vertex_refs", ⟨["references"], [6], .integers .int32 [0, 1, 2, 0, 1, 2], []⟩),
    ("g.cells.vertex_refs_start", ⟨["offsets"], [offsets.length], .integers .int64 offsets, []⟩)]

theorem wellTyped_sampleDataset {offsets : List Int}
    (bounded : ∀ n ∈ offsets, -0x8000000000000000 ≤ n ∧ n < 0x8000000000000000) :
    WellTyped (sampleDataset offsets) "g" where
  rectangular := by
    intro part var found
    cases part <;> cases found
    all_goals simp [Tensor.volume, Column.length]
  words := by
    intro part member var found
    simp only [List.mem_cons, List.not_mem_nil, or_false] at member
    rcases member with rfl | rfl | rfl | rfl | rfl <;> cases found
    · exact ⟨_, _, rfl, by decide⟩
    · exact ⟨_, _, rfl, by decide⟩
    · exact ⟨_, _, rfl, by decide⟩
    · exact ⟨_, _, rfl, by decide⟩
    · exact ⟨_, _, rfl, bounded⟩
  integers := by
    intro info found key member stored present
    cases found
    simp only [List.mem_cons, List.not_mem_nil, or_false] at member
    rcases member with rfl | rfl | rfl <;> cases present <;> exact ⟨_, rfl⟩
  texts := by
    intro info found key member stored present
    cases found
    simp only [List.mem_cons, List.not_mem_nil, or_false] at member
    rcases member with rfl | rfl | rfl | rfl <;> cases present <;> exact ⟨_, rfl⟩

/-- Offsets in order are read. -/
theorem sampleDataset_is_read :
    ∃ grid contents, decode .dataset (sampleDataset [0, 3, 5, 6]) "g" = .ok grid ∧
      contents.Admitted ∧ grid = Contents.mesh contents := by
  have typed : WellTyped (sampleDataset [0, 3, 5, 6]) "g" := wellTyped_sampleDataset (by decide)
  have fit : StoredStepsFit (sampleDataset [0, 3, 5, 6]) "g" := by
    rintro _ ⟨var, found, _, rfl⟩
    cases found
    decide
  have read : ∃ grid, decode .dataset (sampleDataset [0, 3, 5, 6]) "g" = .ok grid := ⟨_, rfl⟩
  obtain ⟨grid, read⟩ := read
  obtain ⟨contents, _, admitted, same, _⟩ := (decode_iff_admitted typed grid).mp ⟨read, fit⟩
  exact ⟨grid, contents, read, admitted, same⟩

/-- Offsets that fall by more than 64 bits hold are read as well, though the format does not
admit them. -/
theorem falling_offsets_are_read :
    WellTyped (sampleDataset [0, 0x4000000000000000, -0x6000000000000000, 6]) "g" ∧
      (∃ grid, decode .dataset
        (sampleDataset [0, 0x4000000000000000, -0x6000000000000000, 6]) "g" = .ok grid) ∧
      ¬ ∃ contents, Stores .dataset
        (sampleDataset [0, 0x4000000000000000, -0x6000000000000000, 6]) "g" contents ∧
          contents.Admitted := by
  refine ⟨wellTyped_sampleDataset (by decide), ⟨_, rfl⟩, ?_⟩
  rintro ⟨contents, stores, admitted⟩
  obtain ⟨_, ⟨var, found, _, rfl⟩, same⟩ := stores.offsets
  cases found
  have ascending := admitted.cuts.ascending
  rw [← same] at ascending
  revert ascending
  decide

end Regrid.GridTables
