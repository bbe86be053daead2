import Mathlib.Algebra.Order.Field.Basic
import Mathlib.Tactic.Positivity
import Regrid.Coupling.Sheet
import Regrid.Proofs.Mesh.Soundness
import Regrid.Proofs.Scalar

/-!
Contract: the overlaps that a realized sheet lists.

Owns:
- what the check of a sheet establishes;
- that overlaps are listed exchange cell by exchange cell, on the model cell of each;
- that listed overlaps lie on model cells and on ice data points, and have no negative area.

Does not own: operators over overlaps.
-/

namespace Regrid

open Attempt

variable {α : Type} [Scalar α]

/-- An overlap lies on one of the model cells and on one of the ice data points, and its area is
a magnitude or a share of one. -/
structure Overlap.Lies (overlap : Overlap α) (modelExtent iceExtent : Int) : Prop where
  modelCell : ∃ i, overlap.modelCell = .int i ∧ 0 ≤ i ∧ i < modelExtent
  icePoint : ∃ p, overlap.icePoint.toInteger = .ok p ∧ 0 ≤ p ∧ p < iceExtent
  area : ∃ size : α, overlap.area = Scalar.abs size ∨
    ∃ shares : Nat, overlap.area = Scalar.abs size / Scalar.ofInt shares

theorem Overlap.Lies.area_nonneg {overlap : Overlap Rat} {modelExtent iceExtent : Int}
    (lies : overlap.Lies modelExtent iceExtent) : 0 ≤ overlap.area := by
  obtain ⟨size, whole | ⟨shares, share⟩⟩ := lies.area
  · rw [whole]
    exact Scalar.abs_rat_nonneg size
  · have count : (0 : Rat) ≤ ((shares : Int) : Rat) := by positivity
    rw [share]
    exact div_nonneg (Scalar.abs_rat_nonneg size) count

namespace Sheet

variable {sheet : Sheet (Grid α) α} {modelExtent : Int} {overlaps : List (Overlap α)}

/-! ### Ice data points -/

/-- The mask of a sheet does not exclude an ice data point. -/
def unmasked {γ : Type} (sheet : Sheet γ α) (icePoint : Value) : Bool :=
  match sheet.isMasked icePoint with
  | .ok masked => !masked
  | .error _ => false

omit [Scalar α] in
theorem unmasked_of_isMasked {γ : Type} {sheet : Sheet γ α} {icePoint : Value} {masked : Bool}
    (read : sheet.isMasked icePoint = .ok masked) : sheet.unmasked icePoint = !masked := by
  rw [unmasked, read]

omit [Scalar α] in
theorem unmasked_iff {γ : Type} {sheet : Sheet γ α} {icePoint : Value} :
    sheet.unmasked icePoint = true ↔ sheet.isMasked icePoint = .ok false := by
  unfold unmasked
  cases sheet.isMasked icePoint with
  | error reason => simp
  | ok masked => simp

/-- The ice data points on which the overlaps of an exchange cell with an ice cell lie: the ice
cell itself, or its vertices. -/
def coveredPoints {γ : Type} (sheet : Sheet γ α) (cell iceCell : Cell α) : List Value :=
  match sheet.variant with
  | .onCells => [cell.j]
  | .onVertices => iceCell.vertices

/-- The area of each overlap of an exchange cell with an ice cell, whatever the winding: all of
it on the ice cell, and equal parts of it on the vertices. -/
def share {γ : Type} (sheet : Sheet γ α) (cell iceCell : Cell α) : α :=
  match sheet.variant with
  | .onCells => Scalar.abs cell.area
  | .onVertices => Scalar.abs cell.area / Scalar.ofInt iceCell.vertices.length

/-! ### One exchange cell -/

/-- The overlaps of an exchange cell, by the variant of the sheet. -/
def cellPart (sheet : Sheet (Grid α) α) : Cell α → Except Error (List (Overlap α)) :=
  match sheet.variant with
  | .onCells => sheet.cellOverlaps
  | .onVertices => sheet.vertexOverlaps

/-- An exchange cell covers part of the ice cell that its second address names, if its first one
names a model cell. The part is as large as the exchange cell. -/
theorem exchangePart_eq_ok_iff {cell iceCell : Cell α} {area : α} :
    sheet.exchangePart cell = .ok (iceCell, area) ↔
      ∃ key, sheet.iceMesh.cells.member? cell.j = .ok (some key) ∧
        (Value.int 0).isAtMost cell.i = .ok true ∧
        cell.i.isBelow sheet.modelExtent = .ok true ∧
        sheet.iceMesh.cells.get key = .ok iceCell ∧ area = Scalar.abs cell.area := by
  constructor
  · intro done
    obtain ⟨found, foundRead, rest⟩ := bind_eq_ok done
    cases found with
    | none => cases rest
    | some key =>
        obtain ⟨natural, naturalRead, rest⟩ := bind_eq_ok rest
        cases natural with
        | false => cases rest
        | true =>
            obtain ⟨below, belowRead, rest⟩ := bind_eq_ok rest
            cases below with
            | false => cases rest
            | true =>
                obtain ⟨stored, storedRead, last⟩ := bind_eq_ok rest
                cases last
                exact ⟨key, foundRead, naturalRead, belowRead, storedRead, rfl⟩
  · rintro ⟨key, foundRead, naturalRead, belowRead, storedRead, rfl⟩
    simp only [exchangePart, foundRead, naturalRead, belowRead, storedRead, bind, Except.bind]
    rfl

/-- The part of an ice cell that an exchange cell covers. -/
theorem exchangePart_eq_ok {cell iceCell : Cell α} {area : α} {i : Int}
    (address : cell.i = .int i) (extent : sheet.modelExtent = .int modelExtent)
    (done : sheet.exchangePart cell = .ok (iceCell, area)) :
    (0 ≤ i ∧ i < modelExtent) ∧ area = Scalar.abs cell.area ∧
      ∃ key ∈ sheet.iceMesh.cells.keys, cell.j.integerKey? = .ok (some key) ∧
        iceCell ∈ sheet.iceMesh.cells.items := by
  obtain ⟨key, foundRead, natural, below, stored, size⟩ := exchangePart_eq_ok_iff.mp done
  obtain ⟨same, used⟩ := Table.member?_eq_some foundRead
  rw [address, Value.isAtMost_int, Except.ok.injEq, decide_eq_true_eq] at natural
  rw [address, extent, Value.isBelow_int, Except.ok.injEq, decide_eq_true_eq] at below
  exact ⟨⟨natural, below⟩, size, key, used, same, Table.mem_items_of_mem (Table.mem_of_get stored)⟩

/-- The ice cell that an exchange cell covers stands under the address that names it. -/
theorem getAt_of_exchangePart {cell iceCell : Cell α} {area : α}
    (done : sheet.exchangePart cell = .ok (iceCell, area)) :
    sheet.iceMesh.cells.getAt cell.j = .ok iceCell := by
  obtain ⟨key, found, _, _, stored, _⟩ := exchangePart_eq_ok_iff.mp done
  rw [Table.getAt, found]
  exact stored

theorem cellOverlaps_eq_ok {cell : Cell α} (listed : sheet.cellOverlaps cell = .ok overlaps) :
    ∃ iceCell elevation, sheet.exchangePart cell = .ok (iceCell, Scalar.abs cell.area) ∧
      overlaps = ([cell.j].filter sheet.unmasked).map fun icePoint =>
        ⟨cell.i, icePoint, Scalar.abs cell.area, elevation⟩ := by
  obtain ⟨⟨iceCell, area⟩, part, rest⟩ := bind_eq_ok listed
  obtain ⟨_, _, _, _, _, rfl⟩ := exchangePart_eq_ok_iff.mp part
  obtain ⟨masked, read, rest⟩ := bind_eq_ok rest
  have agrees := unmasked_of_isMasked read
  cases masked with
  | true =>
      cases rest
      exact ⟨iceCell, Scalar.unknown, part, by simp [agrees]⟩
  | false =>
      obtain ⟨elevation, _, last⟩ := bind_eq_ok rest
      cases last
      exact ⟨iceCell, elevation, part, by simp [agrees]⟩

theorem vertexOverlaps_eq_ok {cell : Cell α} (listed : sheet.vertexOverlaps cell = .ok overlaps) :
    ∃ iceCell elevation, sheet.exchangePart cell = .ok (iceCell, Scalar.abs cell.area) ∧
      overlaps = (iceCell.vertices.filter sheet.unmasked).map fun icePoint =>
        ⟨cell.i, icePoint, Scalar.abs cell.area / Scalar.ofInt iceCell.vertices.length,
          elevation⟩ := by
  obtain ⟨⟨iceCell, area⟩, part, rest⟩ := bind_eq_ok listed
  obtain ⟨_, _, _, _, _, rfl⟩ := exchangePart_eq_ok_iff.mp part
  simp only [] at rest
  split at rest
  next none =>
    cases rest
    exact ⟨iceCell, Scalar.unknown, part, by simp [List.isEmpty_iff.mp none]⟩
  next =>
    obtain ⟨elevation, _, rest⟩ := bind_eq_ok rest
    obtain ⟨kept, filtered, last⟩ := bind_eq_ok rest
    cases last
    have same : kept = iceCell.vertices.filter sheet.unmasked := by
      refine filterM_eq_ok (fun icePoint verdict read => ?_) filtered
      obtain ⟨masked, maskedRead, same⟩ := bind_eq_ok read
      cases same
      exact unmasked_of_isMasked maskedRead
    exact ⟨iceCell, elevation, part, by rw [same]⟩

/-- An exchange cell has one overlap on each covered ice data point that the mask leaves, all with
the same share of its area. -/
theorem cellPart_eq_ok {cell : Cell α} (listed : sheet.cellPart cell = .ok overlaps) :
    ∃ iceCell elevation, sheet.exchangePart cell = .ok (iceCell, Scalar.abs cell.area) ∧
      overlaps = ((sheet.coveredPoints cell iceCell).filter sheet.unmasked).map fun icePoint =>
        ⟨cell.i, icePoint, sheet.share cell iceCell, elevation⟩ := by
  unfold cellPart at listed
  unfold coveredPoints share
  cases kind : sheet.variant with
  | onCells =>
      rw [kind] at listed
      exact cellOverlaps_eq_ok listed
  | onVertices =>
      rw [kind] at listed
      exact vertexOverlaps_eq_ok listed

/-- An overlap of an exchange cell: it lies on the model cell, on a covered ice data point that
the mask does not exclude, and has its share of the area. -/
structure IsPart (sheet : Sheet (Grid α) α) (cell : Cell α) (overlap : Overlap α) : Prop where
  modelCell : overlap.modelCell = cell.i
  unmasked : sheet.isMasked overlap.icePoint = .ok false
  covered : ∃ iceCell, sheet.exchangePart cell = .ok (iceCell, Scalar.abs cell.area) ∧
    overlap.icePoint ∈ sheet.coveredPoints cell iceCell ∧ overlap.area = sheet.share cell iceCell

theorem isPart_of_mem {cell : Cell α} (listed : sheet.cellPart cell = .ok overlaps) :
    ∀ overlap ∈ overlaps, sheet.IsPart cell overlap := by
  obtain ⟨iceCell, elevation, accepted, rfl⟩ := cellPart_eq_ok listed
  intro overlap member
  obtain ⟨icePoint, pointMember, rfl⟩ := List.mem_map.mp member
  obtain ⟨covered, kept⟩ := List.mem_filter.mp pointMember
  exact ⟨rfl, unmasked_iff.mp kept, iceCell, accepted, covered, rfl⟩

/-- In a sound ice mesh, every ice data point that an accepted exchange cell covers is in use. -/
theorem exists_dataKey_of_covered (sound : sheet.iceMesh.Sound (.held α))
    (variant : sheet.iceMesh.parameterization = sheet.variant) {cell iceCell : Cell α} {area : α}
    (accepted : sheet.exchangePart cell = .ok (iceCell, area)) {icePoint : Value}
    (covered : icePoint ∈ sheet.coveredPoints cell iceCell) :
    ∃ key ∈ sheet.iceMesh.dataKeys, icePoint.integerKey? = .ok (some key) := by
  obtain ⟨key, found, _, _, stored, _⟩ := exchangePart_eq_ok_iff.mp accepted
  unfold Mesh.dataKeys
  unfold coveredPoints at covered
  rw [variant]
  cases kind : sheet.variant with
  | onCells =>
      rw [kind] at covered
      obtain rfl := List.mem_singleton.mp covered
      obtain ⟨same, used⟩ := Table.member?_eq_some found
      exact ⟨key, used, same⟩
  | onVertices =>
      rw [kind] at covered
      exact sound.references iceCell (Table.mem_items_of_mem (Table.mem_of_get stored)) icePoint
        covered

/-- An overlap of an exchange cell on an integer model cell lies inside both extents. -/
theorem IsPart.lies {cell : Cell α} {overlap : Overlap α} (part : sheet.IsPart cell overlap)
    (sound : sheet.iceMesh.Sound (.held α))
    (variant : sheet.iceMesh.parameterization = sheet.variant) {i : Int}
    (address : cell.i = .int i) (extent : sheet.modelExtent = .int modelExtent) :
    overlap.Lies modelExtent sheet.iceMesh.fieldLength := by
  obtain ⟨iceCell, accepted, covered, area⟩ := part.covered
  obtain ⟨bounds, _⟩ := exchangePart_eq_ok address extent accepted
  obtain ⟨key, used, same⟩ := exists_dataKey_of_covered sound variant accepted covered
  refine ⟨⟨i, part.modelCell.trans address, bounds⟩,
    ⟨key, Value.toInteger_of_integerKey? same, sound.dataKey_bounds used⟩, cell.area, ?_⟩
  rw [area, share]
  cases sheet.variant with
  | onCells => exact .inl rfl
  | onVertices => exact .inr ⟨_, rfl⟩

/-! ### Realization -/

omit [Scalar α] in
theorem variant_of_check (checked : sheet.check = .ok ()) :
    sheet.iceMesh.parameterization = sheet.variant := by
  simp only [check, refuse_eq_ok_iff] at checked
  exact not_not.mp checked.2.1

omit [Scalar α] in
/-- A sheet whose overlaps are listed has model cells, at least one height point, and an ice mesh
of its own variant. -/
theorem check_eq_ok (extent : sheet.modelExtent = .int modelExtent) {heightPoints : Int}
    (heights : sheet.heightPoints = .int heightPoints) (checked : sheet.check = .ok ()) :
    0 < modelExtent ∧ 1 ≤ heightPoints ∧ sheet.iceMesh.parameterization = sheet.variant := by
  have variant := variant_of_check checked
  simp only [check, refuse_eq_ok_iff, bind_eq_ok_iff] at checked
  obtain ⟨_, _, some, someRead, isSome, few, fewRead, notFew, _⟩ := checked
  have cells : sheet.hasModelCells = .ok !decide (modelExtent ≤ 0) := by
    simp only [hasModelCells, extent, Value.isAtMost_int, bind, Except.bind, pure, Except.pure]
  rw [cells] at someRead
  rw [heights, Value.isBelow_int] at fewRead
  cases someRead
  cases fewRead
  simp only [Bool.not_eq_true', Bool.not_eq_false', decide_eq_true_eq] at isSome notFew
  exact ⟨by omega, by omega, variant⟩

omit [Scalar α] in
/-- A sheet whose overlaps are listed has a number of model cells. -/
theorem extent_ne_null_of_check (checked : sheet.check = .ok ()) : sheet.modelExtent ≠ .null := by
  intro unset
  simp only [check, refuse_eq_ok_iff, bind_eq_ok_iff] at checked
  obtain ⟨_, _, some, someRead, isSome, _⟩ := checked
  have none : sheet.hasModelCells = .ok false := by rw [hasModelCells, unset]
  rw [none] at someRead
  cases someRead
  exact absurd rfl isSome

omit [Scalar α] in
theorem fields_of_check (checked : sheet.check = .ok ()) :
    sheet.checkField "mask2" sheet.mask sheet.iceMesh.fieldLength = .ok () ∧
      sheet.checkField "elev2" sheet.elevation sheet.iceMesh.fieldLength = .ok () := by
  simp only [check, refuse_eq_ok_iff, bind_eq_ok_iff] at checked
  obtain ⟨_, _, _, _, _, _, _, _, _, maskChecked, elevationChecked⟩ := checked
  exact ⟨maskChecked, elevationChecked⟩

omit [Scalar α] in
/-- A field that was checked is a vector of the length that was asked for. -/
theorem vector_of_checkField {β : Type} {label : String} {field : Tensor β} {length : Int}
    (checked : sheet.checkField label (some field) length = .ok ())
    (full : field.items.length = Tensor.volume field.shape) :
    field.shape = [length.toNat] ∧ (field.items.length : Int) = length := by
  by_cases same : field.shape.map Int.ofNat = [length]
  · obtain ⟨size, shape, rfl⟩ := List.map_eq_singleton_iff.mp same
    rw [full, shape]
    simp [Tensor.volume]
  · rw [checkField, if_neg same] at checked
    cases checked

/-- Overlaps are listed exchange cell by exchange cell. -/
theorem listOverlaps_eq_ok_iff : sheet.listOverlaps = .ok overlaps ↔ sheet.check = .ok () ∧
    ∃ parts, List.Forall₂ (fun cell part => sheet.cellPart cell = .ok part)
      sheet.exchangeMesh.cells.items parts ∧ overlaps = parts.flatten := by
  have steps : sheet.listOverlaps = (do
      sheet.check
      return (← sheet.exchangeMesh.cells.items.mapM sheet.cellPart).flatten) := rfl
  rw [steps]
  constructor
  · intro listed
    obtain ⟨_, checked, rest⟩ := bind_eq_ok listed
    obtain ⟨parts, done, same⟩ := bind_eq_ok rest
    cases same
    exact ⟨checked, parts, (mapM_eq_ok_iff ..).mp done, rfl⟩
  · rintro ⟨checked, parts, each, rfl⟩
    rw [checked, (mapM_eq_ok_iff ..).mpr each]
    rfl

/-- Each listed overlap is one of an exchange cell. -/
theorem exists_cell_of_mem_listOverlaps (listed : sheet.listOverlaps = .ok overlaps) :
    ∀ overlap ∈ overlaps, ∃ cell ∈ sheet.exchangeMesh.cells.items, sheet.IsPart cell overlap := by
  obtain ⟨_, parts, each, rfl⟩ := listOverlaps_eq_ok_iff.mp listed
  intro overlap member
  obtain ⟨part, partMember, inPart⟩ := List.mem_flatten.mp member
  obtain ⟨cell, cellMember, done⟩ := exists_item_of_mem each partMember
  exact ⟨cell, cellMember, isPart_of_mem done overlap inPart⟩

/-- Listed overlaps lie on model cells inside the extent. -/
theorem exists_modelCell_of_mem_listOverlaps (listed : sheet.listOverlaps = .ok overlaps)
    (addresses : ∀ cell ∈ sheet.exchangeMesh.cells.items, ∃ i, cell.i = .int i)
    (extent : sheet.modelExtent = .int modelExtent) :
    ∀ overlap ∈ overlaps, ∃ i, overlap.modelCell = .int i ∧ 0 ≤ i ∧ i < modelExtent := by
  intro overlap member
  obtain ⟨cell, cellMember, part⟩ := exists_cell_of_mem_listOverlaps listed overlap member
  obtain ⟨i, address⟩ := addresses cell cellMember
  obtain ⟨_, accepted, _⟩ := part.covered
  obtain ⟨bounds, _⟩ := exchangePart_eq_ok address extent accepted
  exact ⟨i, part.modelCell.trans address, bounds⟩

/-- A sheet that lists overlaps has model cells and height points, and the overlaps lie inside its
extents. -/
theorem mem_listOverlaps (listed : sheet.listOverlaps = .ok overlaps)
    (sound : sheet.iceMesh.Sound (.held α))
    (addresses : ∀ cell ∈ sheet.exchangeMesh.cells.items, ∃ i, cell.i = .int i)
    (extent : sheet.modelExtent = .int modelExtent) {heightPoints : Int}
    (heights : sheet.heightPoints = .int heightPoints) :
    0 < modelExtent ∧ 1 ≤ heightPoints ∧
      ∀ overlap ∈ overlaps, overlap.Lies modelExtent sheet.iceMesh.fieldLength := by
  obtain ⟨checked, _⟩ := listOverlaps_eq_ok_iff.mp listed
  obtain ⟨positive, enough, variant⟩ := check_eq_ok extent heights checked
  refine ⟨positive, enough, fun overlap member => ?_⟩
  obtain ⟨cell, cellMember, part⟩ := exists_cell_of_mem_listOverlaps listed overlap member
  obtain ⟨i, address⟩ := addresses cell cellMember
  exact part.lies sound variant address extent

end Sheet

end Regrid
