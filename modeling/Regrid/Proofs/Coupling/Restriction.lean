import Regrid.Proofs.Coupling.Layout
import Regrid.Proofs.Coupling.Overlaps

/-!
Contract: sheets and their operators when only some model cells count.

Owns:
- that fewer exchange cells give the overlaps that lie on the model cells left;
- that the areas and the averages on these model cells stay what they were, in any arithmetic,
  and that nothing is left on the others.

Does not own: meshes that several sheets share, and the filtering itself.
-/

namespace Regrid

open Attempt SparseMatrix

variable {γ α : Type}

/-- The exchange cell lies on a model cell that passes a test. -/
def Cell.passes (p : Int → Bool) (cell : Cell α) : Bool := cell.i.passes p

/-- The overlap lies on a model cell that passes a test. -/
def Overlap.passes (p : Int → Bool) (overlap : Overlap α) : Bool := overlap.modelCell.passes p

namespace Sheet

/-- The sheet with another exchange mesh, and of its overlaps those that pass a test. -/
def restricted (p : Int → Bool) (exchangeMesh : γ) (sheet : Sheet γ α) : Sheet γ α :=
  { sheet with exchangeMesh, overlaps := sheet.overlaps.map (·.filter (·.passes p)) }

/-! ### Overlaps -/

/-- The overlaps of the cells that pass are the overlaps that pass. -/
theorem exists_parts_filter [Scalar α] {sheet : Sheet (Grid α) α} {cells : List (Cell α)}
    {parts : List (List (Overlap α))}
    (each : List.Forall₂ (fun cell part => sheet.cellPart cell = .ok part) cells parts)
    (p : Int → Bool) : ∃ kept, List.Forall₂ (fun cell part => sheet.cellPart cell = .ok part)
      (cells.filter (·.passes p)) kept ∧ parts.flatten.filter (·.passes p) = kept.flatten := by
  induction each with
  | nil => exact ⟨[], .nil, rfl⟩
  | @cons cell part _ _ first _ inductionHypothesis =>
      obtain ⟨kept, later, same⟩ := inductionHypothesis
      have own : ∀ overlap ∈ part, overlap.passes p = cell.passes p := by
        intro overlap member
        rw [Overlap.passes, (isPart_of_mem first overlap member).modelCell, Cell.passes]
      rw [List.flatten_cons, List.filter_append, same]
      by_cases passes : cell.passes p = true
      · refine ⟨part :: kept, ?_, ?_⟩
        · rw [List.filter_cons_of_pos passes]
          exact .cons first later
        · rw [List.flatten_cons, List.filter_eq_self.mpr]
          intro overlap member
          rw [own overlap member]
          exact passes
      · refine ⟨kept, ?_, ?_⟩
        · rw [List.filter_cons_of_neg passes]
          exact later
        · rw [List.filter_eq_nil_iff.mpr, List.nil_append]
          intro overlap member
          rw [own overlap member]
          exact passes

/-- Fewer exchange cells give fewer overlaps, in the same order. -/
theorem listOverlaps_restricted [Scalar α] {sheet : Sheet (Grid α) α}
    {overlaps : List (Overlap α)} (listed : sheet.listOverlaps = .ok overlaps) (p : Int → Bool)
    {exchangeMesh : Grid α} (type : exchangeMesh.type = sheet.exchangeMesh.type)
    (items : exchangeMesh.cells.items = sheet.exchangeMesh.cells.items.filter (·.passes p)) :
    (sheet.restricted p exchangeMesh).listOverlaps = .ok (overlaps.filter (·.passes p)) := by
  obtain ⟨checked, parts, each, rfl⟩ := listOverlaps_eq_ok_iff.mp listed
  obtain ⟨kept, keptEach, same⟩ := exists_parts_filter each p
  rw [← items] at keptEach
  refine listOverlaps_eq_ok_iff.mpr ⟨?_, kept, keptEach, same⟩
  rw [← checked]
  unfold check
  simp only [restricted, type]
  rfl

/-! ### Entries -/

/-- The sheet lists the entries of the overlaps that are left. -/
theorem Lists.restricted {sheet : Sheet γ α} {modelExtent heightPoints : Int}
    {listed : List (Int × Int × α)} (lists : sheet.Lists modelExtent heightPoints listed)
    (integers : ∀ overlaps, sheet.overlaps = some overlaps → ∀ overlap ∈ overlaps,
      ∃ i, overlap.modelCell = .int i) (p : Int → Bool) (exchangeMesh : γ) :
    (sheet.restricted p exchangeMesh).Lists modelExtent heightPoints
      (listed.filter fun entry => p entry.1) where
  extent := lists.extent
  heights := lists.heights
  read := by
    obtain ⟨overlaps, kept, each⟩ := entries_eq_ok_iff.mp lists.read
    have overlapsNow : (sheet.restricted p exchangeMesh).overlaps =
        some (overlaps.filter (·.passes p)) := by
      rw [Sheet.restricted, kept]
      rfl
    refine entries_eq_ok_iff.mpr ⟨_, overlapsNow, forall₂_filter each ?_⟩
    intro overlap member entry read
    obtain ⟨i, modelCell⟩ := integers overlaps kept overlap member
    obtain ⟨_, row, _⟩ := entry_eq_ok_iff.mp read
    rw [modelCell] at row
    rw [Overlap.passes, modelCell, Value.passes_int, Except.ok.inj row]
  inside := fun entry member => lists.inside entry (List.mem_of_mem_filter member)

end Sheet

/-! ### Several sheets -/

variable [Scalar α]

/-- The areas of all sheets are added up as their entries are. -/
theorem coveredAreas_of_entries {sheets : List (Sheet γ α)} {lists : List (List (Int × Int × α))}
    (each : List.Forall₂ (fun sheet listed => sheet.entries (·.modelCell) = .ok listed) sheets
      lists) : coveredAreas sheets = .ok (Accumulator.addAll {} lists.flatten) := by
  rw [coveredAreas]
  generalize ({} : Accumulator α) = areas
  induction each generalizing areas with
  | nil => rfl
  | @cons _ listed _ _ first _ inductionHypothesis =>
      rw [List.foldlM_cons, Sheet.accumulateAreas_of_entries first, List.flatten_cons,
        Accumulator.addAll_append]
      exact inductionHypothesis (areas.addAll listed)

/-- The value of the averages at a row and a column is the sum of what the sheets have there,
scaled with the area of the row. -/
theorem exists_parts_value {modelExtent : Int} {heightPoints : Value} {sheets : List (Sheet γ α)}
    {operator : DenseOperator α} {areas : Accumulator α}
    (done : heightToModel modelExtent heightPoints sheets = .ok (operator, areas)) :
    ∃ parts : List (List (Int × Int × α) × List (Int × Int × α)),
      List.Forall₂ (fun sheet part => sheet.Contributes part.1 part.2) sheets parts ∧
      areas = Accumulator.addAll {} (parts.flatMap (·.1)) ∧
      ∀ row column, operator.value (.int row) (.int column) =
        .ok (((sum? (valuesAt (parts.flatMap (·.2)) row column)).bind
          (scaled? (reciprocal ((areas.get? row).getD Scalar.zero)))).getD Scalar.zero) := by
  obtain ⟨parts, columnExtent, assembled, contributions, summed, _, assembles, scaled, _⟩ :=
    heightToModel_eq_ok done
  refine ⟨parts, contributions, summed, fun row column => ?_⟩
  obtain ⟨other, otherDone, _, _, stores⟩ := assembles.stores.scaleRows fun native =>
    reciprocal ((areas.get? native).getD Scalar.zero)
  obtain rfl := Except.ok.inj (scaled.symm.trans otherDone)
  exact stores.value row column

/-- Sums of fewer entries are fewer sums. -/
theorem Condenses.valuesAt_filter {listed sums fewer : List (Int × Int × α)}
    (condenses : Condenses listed sums) {p : Int → Bool}
    (restricted : Condenses (listed.filter fun entry => p entry.1) fewer) (row column : Int) :
    valuesAt fewer row column = if p row then valuesAt sums row column else [] := by
  rw [restricted, Regrid.valuesAt_filter, condenses]
  by_cases kept : p row = true
  · rw [if_pos kept, if_pos kept]
  · rw [if_neg kept, if_neg kept]
    rfl

/-- The sheets restricted to the model cells that pass contribute the entries on these. -/
theorem contributes_restricted {modelExtent heightPoints : Int} {p : Int → Bool}
    {sheets fewer : List (Sheet γ α)} {lists : List (List (Int × Int × α))}
    (each : List.Forall₂ (fun sheet listed => sheet.Lists modelExtent heightPoints listed) sheets
      lists)
    (eachFewer : List.Forall₂ (fun sheet listed => sheet.Lists modelExtent heightPoints listed)
      fewer (lists.map (·.filter fun entry => p entry.1)))
    {parts partsFewer : List (List (Int × Int × α) × List (Int × Int × α))}
    (contributes : List.Forall₂ (fun sheet part => sheet.Contributes part.1 part.2) sheets parts)
    (contributesFewer : List.Forall₂ (fun sheet part => sheet.Contributes part.1 part.2) fewer
      partsFewer) :
    partsFewer.flatMap (·.1) = (parts.flatMap (·.1)).filter (fun entry => p entry.1) ∧
      ∀ row column, valuesAt (partsFewer.flatMap (·.2)) row column =
        if p row then valuesAt (parts.flatMap (·.2)) row column else [] := by
  induction each generalizing fewer parts partsFewer with
  | nil =>
      cases contributes
      cases eachFewer
      cases contributesFewer
      exact ⟨rfl, fun row column => (ite_self _).symm⟩
  | cons lists _ inductionHypothesis =>
      cases contributes with
      | cons first later =>
          cases eachFewer with
          | cons listsFewer eachLater =>
              cases contributesFewer with
              | cons firstFewer laterFewer =>
                  obtain ⟨rows, values⟩ := inductionHypothesis eachLater later laterFewer
                  have same := Except.ok.inj (first.read.symm.trans lists.read)
                  have sameFewer := Except.ok.inj (firstFewer.read.symm.trans listsFewer.read)
                  have condenses := firstFewer.condenses
                  rw [sameFewer, ← same] at condenses
                  refine ⟨?_, fun row column => ?_⟩
                  · rw [List.flatMap_cons, List.flatMap_cons, List.filter_append, rows, sameFewer,
                      same]
                  · rw [List.flatMap_cons, List.flatMap_cons, valuesAt_append, valuesAt_append,
                      values, first.condenses.valuesAt_filter condenses]
                    by_cases kept : p row = true
                    · rw [if_pos kept, if_pos kept, if_pos kept]
                    · rw [if_neg kept, if_neg kept, if_neg kept, List.append_nil]

/-- With the sheets restricted to the model cells that pass, the averages are made whenever they
were made with the sheets as they are. Areas and averages stay what they were on the model cells
that pass, and on the others there is nothing left. -/
theorem exists_heightToModel_restricted {modelExtent heightPoints : Int} {p : Int → Bool}
    {sheets fewer : List (Sheet γ α)} {lists : List (List (Int × Int × α))}
    (each : List.Forall₂ (fun sheet listed => sheet.Lists modelExtent heightPoints listed) sheets
      lists)
    (eachFewer : List.Forall₂ (fun sheet listed => sheet.Lists modelExtent heightPoints listed)
      fewer (lists.map (·.filter fun entry => p entry.1)))
    (natural : sheets ≠ [] → 0 ≤ modelExtent ∧ 0 ≤ heightPoints * modelExtent)
    {operator : DenseOperator α} {areas : Accumulator α}
    (done : heightToModel modelExtent (.int heightPoints) sheets = .ok (operator, areas)) :
    ∃ restricted, heightToModel modelExtent (.int heightPoints) fewer =
        .ok (restricted, areas.restricted p) ∧
      ∀ row column, restricted.value (.int row) (.int column) =
        if p row then operator.value (.int row) (.int column) else .ok Scalar.zero := by
  obtain ⟨parts, contributes, rfl, value⟩ := exists_parts_value done
  obtain ⟨restricted, areasFewer, doneFewer⟩ : ∃ restricted areasFewer,
      heightToModel modelExtent (.int heightPoints) fewer = .ok (restricted, areasFewer) := by
    cases each with
    | nil =>
        cases eachFewer
        exact ⟨operator, _, done⟩
    | cons lists _ =>
        -- the first sheet contributed as it was, so the extents fit 64 bits
        obtain ⟨modelNatural, spaceNatural⟩ := natural (List.cons_ne_nil _ _)
        cases contributes with
        | cons first _ =>
            exact exists_heightToModel eachFewer modelNatural spaceNatural
              (.inr (first.words lists.extent lists.heights))
  obtain ⟨partsFewer, contributesFewer, rfl, valueFewer⟩ := exists_parts_value doneFewer
  obtain ⟨rows, values⟩ := contributes_restricted each eachFewer contributes contributesFewer
  have integral := Accumulator.integral_empty (α := α)
  have areas : Accumulator.addAll {} (partsFewer.flatMap (·.1)) =
      (Accumulator.addAll {} (parts.flatMap (·.1))).restricted p := by
    rw [integral.restricted_addAll, rows]
    rfl
  refine ⟨restricted, areas ▸ doneFewer, fun row column => ?_⟩
  rw [valueFewer, value, values, areas, (integral.addAll _).get?_restricted]
  by_cases kept : p row = true
  · rw [if_pos kept, if_pos kept, if_pos kept]
  · rw [if_neg kept, if_neg kept, if_neg kept]
    rfl

end Regrid
