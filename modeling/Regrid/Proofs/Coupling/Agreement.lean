import Regrid.Proofs.Coupling.Overlaps
import Regrid.Proofs.Store.RoundTrip

/-!
Contract: sheets that agree list the same pieces of ice, each in an order of its own.

Owns:
- cells under the same key in meshes that agree;
- when two sheets agree, and when two overlaps are the same piece of ice;
- that a sheet lists its overlaps if one that it agrees with does, and that they are the same
  pieces up to their order.

Does not own: how sheets come to agree, and operators over overlaps.

A mesh that was read holds its cells in the order of their keys and names vertices by integers,
while the one that was written may hold them in any order and name vertices by any value that
equals a key. So the overlaps of the two differ in their order and in how ice data points are
named.
-/

namespace Regrid

open Attempt

/-! ### Cells under the same key -/

namespace GridTables

variable {α : Type} {read written : Grid α}

/-- Two meshes agree, and their cells are found under their own indices. -/
structure AgreesByKey (read written : Grid α) : Prop extends Agrees read written where
  readKeyed : read.cells.WellKeyed Cell.index
  writtenKeyed : written.cells.WellKeyed Cell.index

theorem AgreesByKey.exists_cell (agrees : AgreesByKey read written) {key : Int} {cell : Cell α}
    (stored : (key, cell) ∈ written.cells.entries) :
    ∃ other, (key, other) ∈ read.cells.entries ∧ CellAgrees other cell := by
  have listed : cell ∈ written.cells.sortedItems :=
    mem_items_of_sortedItems.mpr (Table.mem_items_of_mem stored)
  obtain ⟨other, otherListed, same⟩ := exists_item_of_mem agrees.cells listed
  obtain ⟨⟨otherKey, _⟩, otherStored, rfl⟩ :=
    List.mem_map.mp (mem_items_of_sortedItems.mp otherListed)
  have keys : Value.int otherKey = .int key :=
    (agrees.readKeyed.indexed _ _ otherStored).symm.trans
      (same.index.trans (agrees.writtenKeyed.indexed key cell stored))
  cases keys
  exact ⟨_, otherStored, same⟩

theorem CellAgrees.fields {cell other : Cell α} (same : CellAgrees other cell) :
    other.i = cell.i ∧ other.j = cell.j ∧ other.area = cell.area := by
  have address := same.address
  simp only [Cell.address, List.cons.injEq, and_true] at address
  exact ⟨address.1, address.2.1, same.area⟩

theorem Agrees.fieldLength (agrees : Agrees read written) :
    read.fieldLength = written.fieldLength := by
  rw [Mesh.fieldLength, Mesh.fieldLength, agrees.parameterization, agrees.cellExtent,
    agrees.vertexExtent]

end GridTables

/-! ### Sheets and overlaps -/

variable {α : Type}

/-- Two sheets have the same parameters, fields and classifier, and their meshes agree. -/
structure Sheet.Agrees (first second : Sheet (Grid α) α) : Prop where
  variant : first.variant = second.variant
  name : first.name = second.name
  iceMesh : GridTables.Agrees first.iceMesh second.iceMesh
  exchangeMesh : GridTables.Agrees first.exchangeMesh second.exchangeMesh
  modelExtent : first.modelExtent = second.modelExtent
  heightPoints : first.heightPoints = second.heightPoints
  mask : first.mask = second.mask
  elevation : first.elevation = second.elevation
  classifier : first.classifier = second.classifier

/-- Two overlaps are the same piece of ice, whose data point may be named in two ways. -/
structure Overlap.Matches (first second : Overlap α) : Prop where
  modelCell : first.modelCell = second.modelCell
  icePoint : first.icePoint.toInteger = second.icePoint.toInteger
  area : first.area = second.area
  elevation : first.elevation = second.elevation

/-- Two lists hold the same pieces of ice in any order. -/
def SamePieces (first second : List (Overlap α)) : Prop :=
  ∃ middle, first.Perm middle ∧ List.Forall₂ Overlap.Matches middle second

/-- An item that is found by a value is found by an integer that equals it. -/
theorem itemAtValue_of_integerKey? {β : Type} {items : List β} {reference : Value} {n : Int}
    (same : reference.integerKey? = .ok (some n)) {item : β}
    (found : itemAtValue items reference = .ok item) : itemAtValue items (.int n) = .ok item := by
  cases reference with
  | int m =>
      cases same
      exact found
  | null | bool _ | float _ | text _ | moment _ | list _ | map _ => cases found

namespace Sheet

variable {read written : Sheet (Grid α) α}

theorem Agrees.isMasked (agrees : read.Agrees written) (icePoint : Value) :
    read.isMasked icePoint = written.isMasked icePoint := by
  rw [Sheet.isMasked, Sheet.isMasked, agrees.mask]

/-- An ice data point that is masked or not is so under the integer that equals it. -/
theorem isMasked_of_integerKey? {reference : Value} {n : Int}
    (same : reference.integerKey? = .ok (some n)) {masked : Bool}
    (done : written.isMasked reference = .ok masked) :
    written.isMasked (.int n) = .ok masked := by
  unfold Sheet.isMasked at done ⊢
  cases fieldOf : written.mask with
  | none =>
      rw [fieldOf] at done
      exact done
  | some mask =>
      rw [fieldOf] at done
      exact itemAtValue_of_integerKey? same done

theorem Agrees.check (agrees : read.Agrees written) : read.check = written.check := by
  simp only [Sheet.check, hasModelCells, checkField, agrees.variant, agrees.name,
    agrees.iceMesh.parameterization, agrees.exchangeMesh.type, agrees.modelExtent,
    agrees.heightPoints, agrees.mask, agrees.elevation, agrees.iceMesh.fieldLength]

variable [Scalar α]

theorem Agrees.elevationAt (agrees : read.Agrees written) (icePoint : Value) :
    read.elevationAt icePoint = written.elevationAt icePoint := by
  rw [Sheet.elevationAt, Sheet.elevationAt, agrees.elevation]

theorem Agrees.meanElevation (agrees : read.Agrees written) {icePoints references : List Value}
    (named : List.Forall₂ (fun key reference =>
      ∃ n, key = .int n ∧ reference.integerKey? = .ok (some n)) icePoints references)
    {mean : α} (done : written.meanElevation references = .ok mean) :
    read.meanElevation icePoints = .ok mean := by
  unfold Sheet.meanElevation at done ⊢
  rw [agrees.elevation]
  cases fieldOf : written.elevation with
  | none =>
      rw [fieldOf] at done
      exact done
  | some elevation =>
      rw [fieldOf] at done
      obtain ⟨items, found, last⟩ := bind_eq_ok done
      obtain ⟨own, ownFound, same⟩ := exists_mapM_of_forall₂ (S := Eq) named found
        fun key reference item ⟨n, key, equal⟩ found =>
          ⟨item, key ▸ itemAtValue_of_integerKey? equal found, rfl⟩
      rw [List.forall₂_eq_eq_eq] at same
      subst same
      exact bind_eq_ok_iff.mpr ⟨own, ownFound, last⟩

/-! ### One exchange cell -/

/-- Two sheets agree, and the cells of their ice meshes are found under their own indices. -/
structure AgreesByKey (read written : Sheet (Grid α) α) : Prop extends Agrees read written where
  iceCells : GridTables.AgreesByKey read.iceMesh written.iceMesh

variable {cell other : Cell α}

/-- An exchange cell that agrees with another one lies in an ice cell that agrees with that of
the other one. -/
theorem AgreesByKey.exchangePart (agrees : AgreesByKey read written)
    (same : GridTables.CellAgrees other cell) {iceCell : Cell α} {area : α}
    (done : written.exchangePart cell = .ok (iceCell, area)) :
    ∃ otherIce, read.exchangePart other = .ok (otherIce, area) ∧
      GridTables.CellAgrees otherIce iceCell := by
  obtain ⟨sameI, sameJ, sameArea⟩ := same.fields
  obtain ⟨key, foundRead, natural, below, stored, size⟩ := exchangePart_eq_ok_iff.mp done
  obtain ⟨equal, _⟩ := Table.member?_eq_some foundRead
  obtain ⟨otherIce, otherStored, agreeing⟩ := agrees.iceCells.exists_cell (Table.mem_of_get stored)
  have member := Table.member?_of_integerKey? equal (Table.mem_keys_of_mem otherStored)
  have got := Table.get_of_mem agrees.iceCells.readKeyed.distinct otherStored
  refine ⟨otherIce, exchangePart_eq_ok_iff.mpr ⟨key, ?_, ?_, ?_, got, ?_⟩, agreeing⟩
  · rw [sameJ, member]
  · rw [sameI, natural]
  · rw [sameI, agrees.modelExtent, below]
  · rw [size, sameArea]

/-- Exchange cells that agree have the same overlaps with an ice model that has a value per
cell. -/
theorem AgreesByKey.cellOverlaps (agrees : AgreesByKey read written)
    (same : GridTables.CellAgrees other cell) {overlaps : List (Overlap α)}
    (done : written.cellOverlaps cell = .ok overlaps) :
    ∃ own, read.cellOverlaps other = .ok own ∧ List.Forall₂ Overlap.Matches own overlaps := by
  obtain ⟨sameI, sameJ, sameArea⟩ := same.fields
  obtain ⟨⟨iceCell, area⟩, part, rest⟩ := bind_eq_ok done
  obtain ⟨otherIce, otherPart, _⟩ := agrees.exchangePart same part
  obtain ⟨masked, maskedRead, rest⟩ := bind_eq_ok rest
  refine ⟨overlaps, ?_, List.forall₂_same.mpr fun _ _ => ⟨rfl, rfl, rfl, rfl⟩⟩
  have ownMasked := (agrees.isMasked cell.j).trans maskedRead
  rw [Sheet.cellOverlaps, otherPart]
  refine bind_eq_ok_iff.mpr ⟨_, rfl, bind_eq_ok_iff.mpr ⟨masked, sameJ ▸ ownMasked, ?_⟩⟩
  cases masked with
  | true => exact rest
  | false =>
      obtain ⟨elevation, elevationRead, last⟩ := bind_eq_ok rest
      refine bind_eq_ok_iff.mpr
        ⟨elevation, sameJ ▸ (agrees.elevationAt cell.j).trans elevationRead, ?_⟩
      rw [sameI, sameJ]
      exact last

/-- Exchange cells that agree have matching overlaps with an ice model that has a value per
vertex. -/
theorem AgreesByKey.vertexOverlaps (agrees : AgreesByKey read written)
    (same : GridTables.CellAgrees other cell) {overlaps : List (Overlap α)}
    (done : written.vertexOverlaps cell = .ok overlaps) :
    ∃ own, read.vertexOverlaps other = .ok own ∧ List.Forall₂ Overlap.Matches own overlaps := by
  obtain ⟨sameI, _, _⟩ := same.fields
  obtain ⟨⟨iceCell, area⟩, part, rest⟩ := bind_eq_ok done
  obtain ⟨otherIce, otherPart, agreeing⟩ := agrees.exchangePart same part
  have named := agreeing.vertices
  have counted := named.length_eq
  have empty : otherIce.vertices.isEmpty = iceCell.vertices.isEmpty := by
    rw [Bool.eq_iff_iff, List.isEmpty_iff_length_eq_zero, List.isEmpty_iff_length_eq_zero, counted]
  have steps : read.vertexOverlaps other = (do
      if iceCell.vertices.isEmpty then return []
      let elevation ← read.meanElevation otherIce.vertices
      let share := area / Scalar.ofInt otherIce.vertices.length
      let kept ← otherIce.vertices.filterM fun vertex => do return !(← read.isMasked vertex)
      return kept.map fun vertex => ⟨other.i, vertex, share, elevation⟩) := by
    rw [Sheet.vertexOverlaps, otherPart, ← empty]
    rfl
  rw [steps]
  dsimp only at rest
  by_cases none : iceCell.vertices.isEmpty = true
  · rw [if_pos none] at rest
    cases rest
    exact ⟨[], if_pos none, .nil⟩
  · rw [if_neg none] at rest
    obtain ⟨elevation, elevationRead, rest⟩ := bind_eq_ok rest
    obtain ⟨kept, filtered, last⟩ := bind_eq_ok rest
    cases last
    obtain ⟨own, ownFiltered, keptSame⟩ : ∃ own, otherIce.vertices.filterM (fun vertex => do
        return !(← read.isMasked vertex)) = .ok own ∧ List.Forall₂ _ own kept :=
      exists_filterM_of_forall₂ named filtered fun _ _ verdict ⟨n, isKey, equal⟩ tested => by
        obtain ⟨masked, maskedRead, same⟩ := bind_eq_ok tested
        refine bind_eq_ok_iff.mpr ⟨masked, ?_, same⟩
        rw [isKey, agrees.isMasked]
        exact isMasked_of_integerKey? equal maskedRead
    refine ⟨_, (if_neg none).trans (bind_eq_ok_iff.mpr ⟨elevation,
      agrees.meanElevation named elevationRead, bind_eq_ok_iff.mpr ⟨own, ownFiltered, rfl⟩⟩), ?_⟩
    rw [counted, sameI]
    refine List.forall₂_map_left_iff.mpr (List.forall₂_map_right_iff.mpr
      (keptSame.imp fun key reference ⟨n, isKey, equal⟩ => ⟨rfl, ?_, rfl, rfl⟩))
    rw [isKey, Value.toInteger_of_integerKey? equal]
    rfl

/-- The overlaps of exchange cells that agree match, whatever the variant. -/
theorem AgreesByKey.cellPart (agrees : AgreesByKey read written)
    (same : GridTables.CellAgrees other cell) {overlaps : List (Overlap α)}
    (done : written.cellPart cell = .ok overlaps) :
    ∃ own, read.cellPart other = .ok own ∧ List.Forall₂ Overlap.Matches own overlaps := by
  unfold Sheet.cellPart at done ⊢
  rw [agrees.variant]
  cases kind : written.variant with
  | onCells =>
      rw [kind] at done
      exact agrees.cellOverlaps same done
  | onVertices =>
      rw [kind] at done
      exact agrees.vertexOverlaps same done

/-! ### All exchange cells -/

/-- A sheet lists its overlaps if one that it agrees with does, and they are the same pieces. -/
theorem AgreesByKey.exists_listOverlaps (agrees : AgreesByKey read written)
    {overlaps : List (Overlap α)} (listed : written.listOverlaps = .ok overlaps) :
    ∃ own, read.listOverlaps = .ok own ∧ SamePieces own overlaps := by
  obtain ⟨checked, parts, each, rfl⟩ := listOverlaps_eq_ok_iff.mp listed
  -- The cells of either mesh are brought into the order of their keys, where they correspond.
  obtain ⟨sortedParts, sortedEach, sortedPerm⟩ :=
    List.perm_comp_forall₂ (written.exchangeMesh.cells.sorted_perm.map (·.2)) each
  obtain ⟨ownSorted, ownEach, matching⟩ := exists_mapM_of_forall₂ agrees.exchangeMesh.cells
    ((mapM_eq_ok_iff ..).mpr sortedEach) fun _ _ _ same done => agrees.cellPart same done
  obtain ⟨ownParts, ownDone, ownPerm⟩ := List.perm_comp_forall₂
    (read.exchangeMesh.cells.sorted_perm.map (·.2)).symm ((mapM_eq_ok_iff ..).mp ownEach)
  refine ⟨ownParts.flatten, listOverlaps_eq_ok_iff.mpr
    ⟨agrees.check.trans checked, ownParts, ownDone, rfl⟩, ?_⟩
  have both : Relation.Comp (List.Forall₂ Overlap.Matches) List.Perm ownSorted.flatten
      parts.flatten := ⟨sortedParts.flatten, List.rel_flatten matching, sortedPerm.flatten⟩
  rw [List.forall₂_comp_perm_eq_perm_comp_forall₂] at both
  obtain ⟨middle, middlePerm, related⟩ := both
  exact ⟨middle, ownPerm.flatten.trans middlePerm, related⟩

end Sheet

end Regrid
