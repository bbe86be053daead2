import Regrid.Proofs.Coupling.Operators
import Regrid.Shared.CouplingSpace

/-!
Contract: regridding loses nothing and makes nothing up.

Owns:
- the weighted total of a regridded field, on the model mesh and over the ice sheets, and when it is
  answered;
- that both are the total over all pieces of ice.

Does not own: the operators of a single sheet.
-/

namespace Regrid

open Attempt

/-! ### Weighted totals of products -/

/-- A field over height-point space as a function. -/
def fieldAt (field : List Rat) (column : Int) : Rat := field.getD column.toNat 0

/-- Entries stand at the same positions as others, with the same sums there. -/
structure SameSums (first second : List (Int × Int × Rat)) : Prop where
  sums : ∀ row column, (valuesAt first row column).sum = (valuesAt second row column).sum
  nothing : ∀ row column, valuesAt first row column = [] ↔ valuesAt second row column = []

theorem Condenses.sameSums {listed sums : List (Int × Int × Rat)}
    (condenses : Condenses listed sums) : SameSums sums listed where
  sums row column := by
    rw [condenses, sum_toList_sum?]
  nothing row column := by
    rw [condenses, Option.toList_eq_nil_iff, sum?_eq_none_iff]

@[refl]
theorem SameSums.refl (entries : List (Int × Int × Rat)) : SameSums entries entries :=
  ⟨fun _ _ => rfl, fun _ _ => Iff.rfl⟩

theorem SameSums.symm {first second : List (Int × Int × Rat)} (same : SameSums first second) :
    SameSums second first :=
  ⟨fun row column => (same.sums row column).symm, fun row column => (same.nothing row column).symm⟩

theorem SameSums.trans {first second third : List (Int × Int × Rat)}
    (same : SameSums first second) (later : SameSums second third) : SameSums first third :=
  ⟨fun row column => (same.sums row column).trans (later.sums row column),
    fun row column => (same.nothing row column).trans (later.nothing row column)⟩

/-- Where entries stand, there stand some of the others. -/
theorem SameSums.exists_of_mem {first second : List (Int × Int × Rat)}
    (same : SameSums first second) {entry : Int × Int × Rat} (member : entry ∈ second) :
    ∃ x, (entry.1, entry.2.1, x) ∈ first := by
  have some : valuesAt first entry.1 entry.2.1 ≠ [] :=
    mt (same.nothing _ _).mp (List.ne_nil_of_mem (mem_valuesAt.mpr member))
  obtain ⟨x, firstMember⟩ := List.exists_mem_of_ne_nil _ some
  exact ⟨x, mem_valuesAt.mp firstMember⟩

theorem SameSums.append {first second third fourth : List (Int × Int × Rat)}
    (left : SameSums first second) (right : SameSums third fourth) :
    SameSums (first ++ third) (second ++ fourth) where
  sums row column := by
    simp only [valuesAt_append, List.sum_append, left.sums, right.sums]
  nothing row column := by
    simp only [valuesAt_append, List.append_eq_nil_iff, left.nothing, right.nothing]

theorem SameSums.rowTotal_eq {first second : List (Int × Int × Rat)} (same : SameSums first second)
    (f : Int → Rat) (row : Int) : rowTotal f first row = rowTotal f second row := by
  have scaled : ∀ column, (valuesAt first row column).sum =
      1 * (valuesAt second row column).sum := by
    intro column
    rw [one_mul, same.sums]
  rw [rowTotal_eq_mul scaled f, one_mul]

theorem SameSums.rows {first second : List (Int × Int × Rat)} (same : SameSums first second)
    (row : Int) : row ∈ first.map (·.1) ↔ row ∈ second.map (·.1) := by
  have placed : ∀ entries : List (Int × Int × Rat),
      row ∈ entries.map (·.1) ↔ ∃ column, valuesAt entries row column ≠ [] := by
    intro entries
    constructor
    · intro member
      obtain ⟨entry, entryMember, rfl⟩ := List.mem_map.mp member
      exact ⟨entry.2.1, List.ne_nil_of_mem (mem_valuesAt.mpr entryMember)⟩
    · rintro ⟨column, some⟩
      obtain ⟨x, member⟩ := List.exists_mem_of_ne_nil _ some
      exact List.mem_map.mpr ⟨_, mem_valuesAt.mp member, rfl⟩
  simp only [placed, ne_eq, same.nothing]

/-- A sheet is realized and sees the given pieces. -/
structure Shows (modelExtent heightPoints : Int) (sheet : Sheet (Grid Rat) Rat)
    (pieces : List Piece) : Prop where
  realized : ∃ overlaps, sheet.Realized modelExtent heightPoints overlaps ∧
    List.Forall₂ sheet.Sees overlaps pieces
  fits : ∀ piece ∈ pieces,
    piece.Fits modelExtent sheet.iceMesh.fieldLength (heightPoints * modelExtent)

theorem Shows.lists {sheet : Sheet (Grid Rat) Rat} {modelExtent heightPoints : Int}
    {pieces : List Piece} (shows : Shows modelExtent heightPoints sheet pieces) :
    sheet.Lists modelExtent heightPoints (pieces.map Piece.modelEntry) := by
  obtain ⟨overlaps, realized, seen⟩ := shows.realized
  exact Sheet.lists_of_sees realized.extent realized.heights realized.kept seen shows.fits

/-- What sheets add to an operator has the sums of the entries that they list. -/
theorem sameSums_of_contributes {γ : Type} {sheets : List (Sheet γ Rat)}
    {lists : List (List (Int × Int × Rat))}
    (each : List.Forall₂ (fun sheet listed => sheet.entries (·.modelCell) = .ok listed) sheets
      lists)
    {parts : List (List (Int × Int × Rat) × List (Int × Int × Rat))}
    (contributions : List.Forall₂ (fun sheet part => sheet.Contributes part.1 part.2) sheets
      parts) :
    parts.flatMap (·.1) = lists.flatten ∧ SameSums (parts.flatMap (·.2)) lists.flatten := by
  induction each generalizing parts with
  | nil =>
      cases contributions
      exact ⟨rfl, .refl _⟩
  | cons first _ inductionHypothesis =>
      cases contributions with
      | cons contribution others =>
          obtain ⟨listed, sums⟩ := inductionHypothesis others
          have own := Except.ok.inj (contribution.read.symm.trans first)
          have ownSums := contribution.condenses.sameSums
          rw [own] at ownSums
          rw [List.flatMap_cons, List.flatMap_cons, List.flatten_cons, own, listed]
          exact ⟨rfl, ownSums.append sums⟩

/-- The operator to model cells averages over the entries of all sheets, and the areas of the
cells are the sums of these entries. -/
theorem heightToModel_averages {γ : Type} {modelExtent : Int} {heightPoints : Value}
    {sheets : List (Sheet γ Rat)} {lists : List (List (Int × Int × Rat))}
    (each : List.Forall₂ (fun sheet listed => sheet.entries (·.modelCell) = .ok listed) sheets
      lists)
    {operator : DenseOperator Rat} {areas : Accumulator Rat}
    (done : heightToModel modelExtent heightPoints sheets = .ok (operator, areas)) :
    ∃ entries columnExtent,
      (do (← heightPoints.mul (.int modelExtent)).toInteger) = .ok columnExtent ∧
      operator.Averages entries modelExtent columnExtent ∧
      SameSums entries lists.flatten ∧ areas.Sums lists.flatten := by
  obtain ⟨parts, columnExtent, assembled, contributions, summed, columnRead, assembles, scaled, _,
    inside⟩ := heightToModel_eq_ok done
  obtain ⟨listed, same⟩ := sameSums_of_contributes each contributions
  have sums : areas.Sums lists.flatten := by
    rw [summed, listed]
    exact Accumulator.sums_empty.addAll _
  have factors : (assembled.axes.rows.natives.map fun native =>
      reciprocal ((areas.get? native).getD Scalar.zero)) =
      assembled.axes.rows.natives.map fun row =>
        reciprocal (rowWeight (parts.flatMap (·.2)) row) := by
    refine List.map_congr_left fun row _ => ?_
    rw [sums.getD_get?, rowWeight, rowWeight, same.rowTotal_eq]
  rw [factors] at scaled
  exact ⟨_, columnExtent, columnRead, assembles.averages inside scaled, same, sums⟩

theorem lists_of_shown {sheets : List (Sheet (Grid Rat) Rat)} {modelExtent heightPoints : Int}
    {pieces : List (List Piece)}
    (shown : List.Forall₂ (Shows modelExtent heightPoints) sheets pieces) :
    List.Forall₂ (fun sheet listed => sheet.Lists modelExtent heightPoints listed) sheets
      (pieces.map (List.map Piece.modelEntry)) :=
  List.forall₂_map_right_iff.mpr (shown.imp fun _ _ shows => shows.lists)

theorem enough_of_shown {sheets : List (Sheet (Grid Rat) Rat)} {modelExtent heightPoints : Int}
    {pieces : List (List Piece)}
    (shown : List.Forall₂ (Shows modelExtent heightPoints) sheets pieces) (some : sheets ≠ []) :
    1 ≤ heightPoints := by
  obtain ⟨sheet, member⟩ := List.exists_mem_of_ne_nil _ some
  obtain ⟨_, _, shows⟩ := exists_answer_of_mem shown member
  obtain ⟨_, realized, _⟩ := shows.realized
  exact realized.exists_pieces.2.1

/-- Whatever averages on model cells are made, height-point space fits 64 bits unless there is no
sheet. -/
theorem spaceWord_of_heightToModel {sheets : List (Sheet (Grid Rat) Rat)}
    {modelExtent heightPoints : Int} {pieces : List (List Piece)}
    (shown : List.Forall₂ (Shows modelExtent heightPoints) sheets pieces)
    (modelNatural : 0 ≤ modelExtent) {operator : DenseOperator Rat} {areas : Accumulator Rat}
    (done : heightToModel modelExtent (.int heightPoints) sheets = .ok (operator, areas))
    (some : sheets ≠ []) :
    word (heightPoints * modelExtent) = .ok (heightPoints * modelExtent) := by
  have enough := enough_of_shown shown
  obtain ⟨_, fits⟩ := (exists_heightToModel_iff (lists_of_shown shown) modelNatural enough).mp
    ⟨operator, areas, done⟩
  have addressable := addressable_of_fits modelNatural enough (fits.resolve_left some)
  exact (addressable.resolve_left some).2

namespace CouplingSpace

/-- All sheets of a coupling are realized for its model mesh and its height points. -/
structure Realized (space : CouplingSpace Rat) (ref : Ref (Coupling Rat))
    (heightPoints : Int) : Prop where
  heights : (space.couplings.get ref).heightPoints = .int heightPoints
  modelMesh : (space.meshes.view (space.couplings.get ref).modelMesh).Sound (.held Rat)
  sheets : ∀ sheet ∈ space.viewSheets ref, ∃ overlaps,
    sheet.Realized (space.modelExtent ref) heightPoints overlaps

variable {space : CouplingSpace Rat} {ref : Ref (Coupling Rat)} {heightPoints : Int}

theorem Realized.exists_pieces (realized : space.Realized ref heightPoints) :
    ∃ pieces, List.Forall₂ (Shows (space.modelExtent ref) heightPoints) (space.viewSheets ref)
      pieces := by
  refine exists_forall₂ fun sheet member => ?_
  obtain ⟨overlaps, sheetRealized⟩ := realized.sheets sheet member
  obtain ⟨_, _, pieces, seen, fits⟩ := sheetRealized.exists_pieces
  exact ⟨pieces, ⟨overlaps, sheetRealized, seen⟩, fits⟩

/-- The averages on model cells are made exactly if the size of height-point space is natural, and
fits 64 bits unless there is no sheet. -/
theorem Realized.exists_heightToModel_iff (realized : space.Realized ref heightPoints) :
    (∃ operator areas, space.heightToModel ref = .ok (operator, areas)) ↔
      0 ≤ heightPoints * space.modelExtent ref ∧ (space.viewSheets ref = [] ∨
        heightPoints * space.modelExtent ref < -Scalar.leastInt64) := by
  obtain ⟨pieces, shown⟩ := realized.exists_pieces
  rw [CouplingSpace.heightToModel, realized.heights]
  exact Regrid.exists_heightToModel_iff (lists_of_shown shown)
    realized.modelMesh.fieldLength_natural (enough_of_shown shown)

/-- Whatever averages on model cells are made, height-point space fits 64 bits unless there is no
sheet. -/
theorem Realized.spaceWord (realized : space.Realized ref heightPoints)
    (made : ∃ operator areas, space.heightToModel ref = .ok (operator, areas))
    (some : space.viewSheets ref ≠ []) : word (heightPoints * space.modelExtent ref) =
      .ok (heightPoints * space.modelExtent ref) := by
  obtain ⟨pieces, shown⟩ := realized.exists_pieces
  obtain ⟨operator, areas, done⟩ := made
  rw [CouplingSpace.heightToModel, realized.heights] at done
  exact spaceWord_of_heightToModel shown realized.modelMesh.fieldLength_natural done some

/-- One model cell that a cell of a mesh with a value per cell and a triangle of a mesh with a
value per vertex overlap, both with an area of six, where one vertex of the triangle is
masked. -/
def sampleCoupling : CouplingSpace Rat where
  meshes :=
    { vertices := ⟨#[⟨0, 0, .int 0⟩, ⟨1, 0, .int 1⟩, ⟨0, 1, .int 2⟩]⟩
      cells := ⟨#[{ index := .int 0, area := 9 },
        { index := .int 0, i := .int 0, j := .int 0, area := -6 },
        { vertices := [.int 0, .int 1, .int 2], index := .int 0, area := 8 }]⟩
      grids := ⟨#[{ cells := Table.empty.push 0 ⟨0⟩ },
        { type := .exchange, cells := Table.empty.push 0 ⟨1⟩ },
        { parameterization := .onVertices
          vertices := ((Table.empty.push 0 ⟨0⟩).push 1 ⟨1⟩).push 2 ⟨2⟩
          cells := Table.empty.push 0 ⟨2⟩ }]⟩ }
  sheets := ⟨#[
    { variant := .onCells, name := .text "cells", iceMesh := ⟨0⟩, exchangeMesh := ⟨1⟩
      modelExtent := .int 1, heightPoints := .int 2
      classifier := some fun _ _ => .ok (.int 1)
      overlaps := some [⟨.int 0, .int 0, 6, 0⟩] },
    { variant := .onVertices, name := .text "vertices", iceMesh := ⟨2⟩, exchangeMesh := ⟨1⟩
      modelExtent := .int 1, heightPoints := .int 2
      mask := some ⟨[3], [false, true, false]⟩
      overlaps := some [⟨.int 0, .int 0, 2, 0⟩, ⟨.int 0, .int 2, 2, 0⟩] }]⟩
  couplings := ⟨#[
    { modelMesh := ⟨0⟩, heightPoints := .int 2
      sheets := [(.text "cells", ⟨0⟩), (.text "vertices", ⟨1⟩)] }]⟩

theorem wellKeyed_single {ι : Type} {indexOf : ι → Value} {item : ι}
    (own : indexOf item = .int 0) : (Table.empty.push 0 item).WellKeyed indexOf :=
  (Table.wellKeyed_empty indexOf).push (rfl : Table.checkKey .cell _ _ = .ok ()) own

theorem sampleCoupling_cell_sound : (sampleCoupling.meshes.view ⟨0⟩).Sound (.held Rat) where
  vertices := Table.wellKeyed_empty _
  cells := wellKeyed_single rfl
  references := by
    intro cell member
    obtain rfl := List.mem_singleton.mp member
    exact nofun
  projection := by decide

theorem sampleCoupling_triangle_sound : (sampleCoupling.meshes.view ⟨2⟩).Sound (.held Rat) where
  vertices :=
    have first := wellKeyed_single (rfl : Vertex.index (⟨0, 0, .int 0⟩ : Vertex Rat) = .int 0)
    have second := first.push (rfl : Table.checkKey .vertex _ 1 = .ok ())
      (rfl : Vertex.index (⟨1, 0, .int 1⟩ : Vertex Rat) = .int 1)
    second.push (rfl : Table.checkKey .vertex _ 2 = .ok ())
      (rfl : Vertex.index (⟨0, 1, .int 2⟩ : Vertex Rat) = .int 2)
  cells := wellKeyed_single rfl
  references := by
    intro cell member reference named
    obtain rfl := List.mem_singleton.mp member
    have vertices : reference ∈ [Value.int 0, .int 1, .int 2] := named
    simp only [List.mem_cons, List.not_mem_nil, or_false] at vertices
    rcases vertices with rfl | rfl | rfl
    · exact ⟨0, by decide, rfl⟩
    · exact ⟨1, by decide, rfl⟩
    · exact ⟨2, by decide, rfl⟩
  projection := by decide

theorem sampleCoupling_address : ∀ cell ∈ (sampleCoupling.meshes.view ⟨1⟩).cells.items,
    ∃ i, cell.i = .int i := by
  intro cell member
  obtain rfl := List.mem_singleton.mp member
  exact ⟨0, rfl⟩

theorem sampleCoupling_cells_realizable :
    (sampleCoupling.viewSheet ⟨0⟩).Realizable 1 2 [⟨.int 0, .int 0, 6, 0⟩] where
  extent := rfl
  heights := rfl
  iceMesh := sampleCoupling_cell_sound
  addresses := sampleCoupling_address
  listed := rfl
  classified := by
    rintro classify same overlap -
    obtain rfl := Option.some.inj same
    exact ⟨.int 1, 1, rfl, rfl, by decide, by decide⟩

theorem sampleCoupling_vertices_realizable : (sampleCoupling.viewSheet ⟨1⟩).Realizable 1 2
    [⟨.int 0, .int 0, 2, 0⟩, ⟨.int 0, .int 2, 2, 0⟩] where
  extent := rfl
  heights := rfl
  iceMesh := sampleCoupling_triangle_sound
  addresses := sampleCoupling_address
  listed := by
    have share : (6 : Rat) / ((3 : Int) : Rat) = 2 := by decide +kernel
    rw [← share]
    rfl
  classified := nofun

end CouplingSpace

end Regrid
