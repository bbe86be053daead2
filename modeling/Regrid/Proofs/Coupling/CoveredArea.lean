import Regrid.Proofs.Coupling.Conservation
import Regrid.Proofs.Coupling.Realization
import Regrid.Proofs.Sparse.Accumulator
import Regrid.Proofs.Sparse.Action

/-!
Contract: the ice-covered area of a model cell, found in three ways.

Owns:
- the area that an exchange cell covers with ice that the mask does not exclude;
- that the overlaps of an exchange cell have this area together;
- that a sheet adds the same areas up with its operator and without it, and that the rows of the
  operator have these areas as their sums.

Does not own: when a sheet can list its overlaps.

The sums are the same in any arithmetic, because the same areas are added in the same order. That
they are the areas of exchange cells is an exact statement: on vertices each area is divided, and
the shares of excluded vertices are left out.
-/

namespace Regrid

open Attempt

/-! ### Exchange cells -/

namespace Sheet

/-- The area that an exchange cell covers with ice: all of it or nothing for an ice model with a
value per cell, and the part of the vertices that are not excluded for one with a value per
vertex. -/
def coveredArea (sheet : Sheet (Grid Rat) Rat) (cell : Cell Rat) : Rat :=
  match sheet.variant with
  | .onCells => if sheet.unmasked cell.j then |cell.area| else 0
  | .onVertices =>
    match sheet.iceMesh.cells.getAt cell.j with
    | .ok iceCell =>
      |cell.area| * iceCell.vertices.countP sheet.unmasked / iceCell.vertices.length
    | .error _ => 0

variable {sheet : Sheet (Grid Rat) Rat} {cell : Cell Rat} {part : List (Overlap Rat)}

/-- The overlaps of an exchange cell have together the area that it covers. -/
theorem sum_area_cellPart (listed : sheet.cellPart cell = .ok part) :
    (part.map Overlap.area).sum = sheet.coveredArea cell := by
  obtain ⟨iceCell, elevation, accepted, rfl⟩ := cellPart_eq_ok listed
  have shares : ∀ icePoints : List Value,
      ((icePoints.map fun icePoint => (⟨cell.i, icePoint, sheet.share cell iceCell, elevation⟩ :
        Overlap Rat)).map Overlap.area).sum = icePoints.length * sheet.share cell iceCell := by
    intro icePoints
    simp [Function.comp_def]
  rw [shares, ← List.countP_eq_length_filter]
  unfold coveredArea coveredPoints share
  cases sheet.variant with
  | onCells =>
      by_cases kept : sheet.unmasked cell.j = true
      · simp [kept, Scalar.abs_rat]
      · simp [kept]
  | onVertices =>
      simp only [getAt_of_exchangePart accepted, Scalar.abs_rat]
      rw [← mul_div_assoc, mul_comm]
      rfl

/-- The overlaps on a model cell are those of the exchange cells on it. -/
theorem sum_area_modelCell {cells : List (Cell Rat)} {parts : List (List (Overlap Rat))}
    (each : List.Forall₂ (fun cell part => sheet.cellPart cell = .ok part) cells parts) (i : Int) :
    ((parts.flatten.filter fun overlap => overlap.modelCell.same (.int i)).map Overlap.area).sum =
      ((cells.filter fun cell => cell.i.same (.int i)).map sheet.coveredArea).sum := by
  induction each with
  | nil => rfl
  | @cons cell part _ _ listed _ inductionHypothesis =>
      have own : part.filter (fun overlap => overlap.modelCell.same (.int i)) =
          if cell.i.same (.int i) then part else [] := by
        split
        next here =>
          exact List.filter_eq_self.mpr fun overlap member => by
            rw [(isPart_of_mem listed overlap member).modelCell, here]
        next elsewhere =>
          refine List.filter_eq_nil_iff.mpr fun overlap member => ?_
          rw [(isPart_of_mem listed overlap member).modelCell]
          exact elsewhere
      rw [List.flatten_cons, List.filter_append, List.map_append, List.sum_append,
        inductionHypothesis, own, List.filter_cons]
      split
      next => rw [sum_area_cellPart listed, List.map_cons, List.sum_cons]
      next => exact zero_add _

/-- The weight of a row of entries is the area of the overlaps on its model cell. -/
theorem rowWeight_of_entries {overlaps : List (Overlap Rat)} {listed : List (Int × Int × Rat)}
    (each : List.Forall₂ (fun overlap entry => sheet.entry (·.modelCell) overlap = .ok entry)
      overlaps listed)
    (integers : ∀ overlap ∈ overlaps, ∃ i, overlap.modelCell = .int i) (i : Int) :
    rowWeight listed i =
      ((overlaps.filter fun overlap => overlap.modelCell.same (.int i)).map Overlap.area).sum := by
  induction each with
  | nil => rfl
  | @cons overlap entry _ _ read _ inductionHypothesis =>
      obtain ⟨own, modelCell⟩ := integers overlap (by simp)
      obtain ⟨_, row, area⟩ := entry_eq_ok_iff.mp read
      rw [modelCell] at row
      have same : own = entry.1 := Except.ok.inj row
      rw [rowWeight, rowTotal_cons, one_mul, ← rowWeight,
        inductionHypothesis fun other member => integers other (by simp [member]),
        List.filter_cons, modelCell, Value.same_int, same, ← area]
      by_cases here : entry.1 = i
      · simp [here]
      · simp [here, Ne.symm here]

end Sheet

/-! ### Row sums -/

namespace DenseOperator

/-- The sum of a native row of an operator, which is zero where the operator does not hold the
row. -/
def rowSum {α : Type} [Scalar α] (operator : DenseOperator α) (row : Int) : α :=
  match operator.axes.rows.dense? row with
  | some number => operator.matrix.rowSums.getD number Scalar.zero
  | none => Scalar.zero

theorem Assembles.rowSum {operator : DenseOperator Rat} {entries : List (Int × Int × Rat)}
    {rowExtent columnExtent : Int} (assembles : operator.Assembles entries rowExtent columnExtent)
    (inside : ∀ entry ∈ entries, Inside rowExtent columnExtent entry) (row : Int) :
    operator.rowSum row = rowWeight entries row := by
  unfold DenseOperator.rowSum
  cases known : operator.axes.rows.dense? row with
  | some number =>
      simp only []
      rw [(assembles.acts inside).rowSums, List.getD_eq_getElem?_getD, List.getElem?_map,
        IndexSet.getElem?_of_dense? known]
      rfl
  | none =>
      refine (rowTotal_of_not_mem fun entry member same => ?_).symm
      exact IndexSet.not_mem_of_dense? known
        ((assembles.mem_natives_iff row).1.mpr (List.mem_map.mpr ⟨entry, member, same⟩))

end DenseOperator

/-! ### Three ways -/

/-- What is held at an index grows by the weight of its row. -/
theorem Accumulator.getD_addAll (areas : Accumulator Rat) (entries : List (Int × Int × Rat))
    (index : Int) : ((areas.addAll entries).get? index).getD 0 - (areas.get? index).getD 0 =
      rowWeight entries index := by
  rw [Accumulator.get?_addAll]
  split
  next => exact add_sub_cancel_left _ _
  next absent =>
    rw [sub_self, rowWeight, rowTotal_of_not_mem]
    exact fun entry member same => absent (List.mem_map.mpr ⟨entry, member, same⟩)

/-- A sheet that keeps its overlaps adds up the same areas with its operator and without it, in
any arithmetic and from any sums. In exact arithmetic what is added at a model cell is the row sum
of the operator there, and the area that the exchange cells on this model cell covered with ice
that was not masked when the overlaps were listed. -/
theorem covered_area_agrees :
    (∀ {α : Type} [Scalar α] {sheet : Sheet (Grid α) α} {modelExtent heightPoints : Int}
      {mask : Option (Tensor Bool)} {elevation : Option (Tensor α)} {overlaps : List (Overlap α)},
      sheet.Cached modelExtent heightPoints mask elevation overlaps → ∀ areas : Accumulator α,
        ∃ operator after, sheet.heightToModel.outcome areas = (.ok operator, after) ∧
          sheet.accumulateAreas areas = .ok after) ∧
    ∀ {sheet : Sheet (Grid Rat) Rat} {modelExtent heightPoints : Int}
      {mask : Option (Tensor Bool)} {elevation : Option (Tensor Rat)}
      {overlaps : List (Overlap Rat)},
      sheet.Cached modelExtent heightPoints mask elevation overlaps →
        ∀ (areas : Accumulator Rat) (operator : DenseOperator Rat) (after : Accumulator Rat),
          sheet.heightToModel.outcome areas = (.ok operator, after) → ∀ i : Int,
            (after.get? i).getD 0 - (areas.get? i).getD 0 = operator.rowSum i ∧
            operator.rowSum i =
              ((sheet.exchangeMesh.cells.items.filter fun cell => cell.i.same (.int i)).map
                { sheet with mask, elevation }.coveredArea).sum := by
  constructor
  · intro α _ sheet modelExtent heightPoints mask elevation overlaps cached areas
    obtain ⟨operator, after, done, _, covered⟩ := cached.located.exists_heightToModel areas
    exact ⟨operator, after, done, covered⟩
  · intro sheet modelExtent heightPoints mask elevation overlaps cached areas operator after done i
    obtain ⟨listed, rowExtent, columnExtent, read, rfl, _, _, assembles, inside⟩ :=
      Sheet.heightToModel_eq_ok (whole_eq_ok_iff.mpr done)
    obtain ⟨overlaps, kept, each⟩ := Sheet.entries_eq_ok_iff.mp read
    obtain rfl := Option.some.inj (cached.kept.symm.trans kept)
    have modelCells := cached.located.modelCells
    obtain ⟨_, parts, parted, rfl⟩ := Sheet.listOverlaps_eq_ok_iff.mp cached.listed
    have rowSum := assembles.rowSum inside i
    refine ⟨by rw [rowSum, Accumulator.getD_addAll], ?_⟩
    rw [rowSum, Sheet.rowWeight_of_entries each (fun overlap member =>
      let ⟨i, same, _⟩ := modelCells overlap member; ⟨i, same⟩)]
    exact Sheet.sum_area_modelCell parted i

/-- Of a triangle that is covered with an area of six, one vertex is masked. -/
theorem covered_area_of_triangle : ∃ operator after,
    (CouplingSpace.sampleCoupling.viewSheet ⟨1⟩).heightToModel.outcome {} =
      (.ok operator, after) ∧
    (CouplingSpace.sampleCoupling.viewSheet ⟨1⟩).accumulateAreas {} = .ok after ∧
    operator.rowSum 0 = 4 := by
  have realizable := CouplingSpace.sampleCoupling_vertices_realizable
  have cached : (CouplingSpace.sampleCoupling.viewSheet ⟨1⟩).Cached 1 2
      (some ⟨[3], [false, true, false]⟩) none [⟨.int 0, .int 0, 2, 0⟩, ⟨.int 0, .int 2, 2, 0⟩] :=
    ⟨rfl, rfl, realizable.addresses, realizable.listed, rfl, realizable.classified⟩
  obtain ⟨operator, after, done, covered⟩ := covered_area_agrees.1 cached {}
  obtain ⟨_, sum⟩ := covered_area_agrees.2 cached {} operator after done 0
  exact ⟨operator, after, done, covered, sum.trans (by decide +kernel)⟩

end Regrid
