import Regrid.Proofs.Coupling.Reordering

/-!
Contract: what a sheet computes depends on the ice under its exchange cells, and not on how the
cells describe it.

Owns:
- other descriptions of the same ice: other orders, numbers and windings, and cells in two parts;
- that a sheet lists the same ice for each of them;
- that the operators and the covered areas of the sheet have the same values for each of them.

Does not own: several sheets together.

Another description has other overlaps: in another order, and more of them, of other areas. Common
to all of them are the sums of the areas, whatever the positions at which overlaps are counted, as
long as their areas have no part in the position. The positions in the operators are of this kind.
-/

namespace Regrid

open Attempt

/-! ### Exchange cells -/

/-- Two exchange cells are overlaps of the same model cell with the same ice cell. -/
structure Cell.Meets (cell other : Cell Rat) : Prop where
  i : other.i = cell.i
  j : other.j = cell.j

/-- Exchange cells describe the ice of others: they stand in another order, or one of them has
another number, runs around its polygon the other way, or stands as two parts. The parts of a cell
have its winding, so that their areas have one sign. -/
inductive Rearranged : List (Cell Rat) → List (Cell Rat) → Prop where
  | reordered {cells others : List (Cell Rat)} (perm : cells.Perm others) : Rearranged cells others
  | renumbered {cell other : Cell Rat} (meets : cell.Meets other) (area : other.area = cell.area)
      (rest : List (Cell Rat)) : Rearranged (cell :: rest) (other :: rest)
  | turned (cell : Cell Rat) (rest : List (Cell Rat)) :
      Rearranged (cell :: rest) ({ cell with area := -cell.area } :: rest)
  | split {cell one other : Cell Rat} (meets : cell.Meets one) (meetsOther : cell.Meets other)
      (area : one.area + other.area = cell.area) (oneSign : 0 ≤ one.area * other.area)
      (rest : List (Cell Rat)) : Rearranged (cell :: rest) (one :: other :: rest)
  | trans {cells others last : List (Cell Rat)} (first : Rearranged cells others)
      (second : Rearranged others last) : Rearranged cells last

/-- A cell of another description meets one of the cells described. -/
theorem Rearranged.exists_meets {cells others : List (Cell Rat)}
    (rearranged : Rearranged cells others) :
    ∀ other ∈ others, ∃ cell ∈ cells, cell.Meets other := by
  induction rearranged with
  | reordered perm => exact fun other member => ⟨other, perm.mem_iff.mpr member, rfl, rfl⟩
  | renumbered meets area rest =>
      intro other member
      rcases List.mem_cons.mp member with rfl | later
      · exact ⟨_, List.mem_cons_self .., meets⟩
      · exact ⟨other, List.mem_cons_of_mem _ later, rfl, rfl⟩
  | turned cell rest =>
      intro other member
      rcases List.mem_cons.mp member with rfl | later
      · exact ⟨cell, List.mem_cons_self .., rfl, rfl⟩
      · exact ⟨other, List.mem_cons_of_mem _ later, rfl, rfl⟩
  | split meets meetsOther area oneSign rest =>
      intro other member
      rcases List.mem_cons.mp member with rfl | later
      · exact ⟨_, List.mem_cons_self .., meets⟩
      · rcases List.mem_cons.mp later with rfl | last
        · exact ⟨_, List.mem_cons_self .., meetsOther⟩
        · exact ⟨other, List.mem_cons_of_mem _ last, rfl, rfl⟩
  | trans _ _ first second =>
      intro other member
      obtain ⟨middle, middleMember, meets⟩ := second other member
      obtain ⟨cell, cellMember, meetsMiddle⟩ := first middle middleMember
      exact ⟨cell, cellMember, meets.i.trans meetsMiddle.i, meets.j.trans meetsMiddle.j⟩

/-! ### Sums of areas -/

/-- An overlap as an entry, at a position that its area has no part in. -/
def Overlap.entryAt (position : Value → Value → Rat → Int × Int) (overlap : Overlap Rat) :
    Int × Int × Rat :=
  ((position overlap.modelCell overlap.icePoint overlap.elevation).1,
    (position overlap.modelCell overlap.icePoint overlap.elevation).2, overlap.area)

/-- Two lists of overlaps hold the same ice: whatever the positions at which overlaps are counted,
the sums of their areas there are the same. -/
def SameIce (first second : List (Overlap Rat)) : Prop :=
  ∀ position, SameSums (first.map (·.entryAt position)) (second.map (·.entryAt position))

namespace SameIce

variable {first second third fourth : List (Overlap Rat)}

theorem refl (overlaps : List (Overlap Rat)) : SameIce overlaps overlaps := fun _ => .refl _

theorem trans (same : SameIce first second) (later : SameIce second third) :
    SameIce first third := fun position => (same position).trans (later position)

theorem of_perm (perm : first.Perm second) : SameIce first second :=
  fun _ => sameSums_of_perm (perm.map _)

theorem append (left : SameIce first second) (right : SameIce third fourth) :
    SameIce (first ++ third) (second ++ fourth) := by
  intro position
  rw [List.map_append, List.map_append]
  exact (left position).append (right position)

/-- An overlap lies where an overlap of the same ice lies. -/
theorem exists_of_mem (same : SameIce first second) {overlap : Overlap Rat}
    (member : overlap ∈ second) : ∃ other ∈ first, other.modelCell = overlap.modelCell ∧
      other.icePoint = overlap.icePoint ∧ other.elevation = overlap.elevation := by
  classical
  -- the overlaps that lie where this one does are counted apart from all others
  let position (modelCell icePoint : Value) (elevation : Rat) : Int × Int :=
    if modelCell = overlap.modelCell ∧ icePoint = overlap.icePoint ∧
      elevation = overlap.elevation then (1, 1) else (0, 0)
  have here : position overlap.modelCell overlap.icePoint overlap.elevation = (1, 1) :=
    if_pos ⟨rfl, rfl, rfl⟩
  obtain ⟨x, found⟩ := (same position).exists_of_mem
    (List.mem_map_of_mem (f := (·.entryAt position)) member)
  obtain ⟨other, otherMember, read⟩ := List.mem_map.mp found
  have row := congrArg Prod.fst read
  simp only [Overlap.entryAt, here] at row
  refine ⟨other, otherMember, ?_⟩
  by_contra apart
  rw [show position other.modelCell other.icePoint other.elevation = (0, 0) from
    if_neg apart] at row
  exact absurd row (by decide)

end SameIce

/-- The overlap with its area taken so many times. -/
def Overlap.scaled (factor : Rat) (overlap : Overlap Rat) : Overlap Rat :=
  { overlap with area := factor * overlap.area }

theorem valuesAt_scaled (position : Value → Value → Rat → Int × Int) (factor : Rat)
    (overlaps : List (Overlap Rat)) (row column : Int) :
    valuesAt ((overlaps.map (·.scaled factor)).map (·.entryAt position)) row column =
      (valuesAt (overlaps.map (·.entryAt position)) row column).map (factor * ·) := by
  simp only [valuesAt, List.filter_map, List.map_map]
  rfl

/-- Overlaps in two parts hold the ice of the whole. -/
theorem sameIce_scaled_add (first second : Rat) (overlaps : List (Overlap Rat)) :
    SameIce (overlaps.map (·.scaled (first + second)))
      (overlaps.map (·.scaled first) ++ overlaps.map (·.scaled second)) := by
  intro position
  rw [List.map_append]
  constructor
  · intro row column
    rw [valuesAt_append, List.sum_append, valuesAt_scaled, valuesAt_scaled, valuesAt_scaled,
      List.sum_map_mul_left, List.sum_map_mul_left, List.sum_map_mul_left, add_mul]
  · intro row column
    rw [valuesAt_append, valuesAt_scaled, valuesAt_scaled, valuesAt_scaled, List.append_eq_nil_iff,
      List.map_eq_nil_iff, List.map_eq_nil_iff, List.map_eq_nil_iff, and_self]

/-! ### Listed overlaps -/

namespace Sheet

variable {sheet first second : Sheet (Grid Rat) Rat} {cell other : Cell Rat}

/-- A cell that meets another one covers part of the same ice cell. -/
theorem exchangePart_of_meets (meets : cell.Meets other) {iceCell : Cell Rat} {area : Rat}
    (done : sheet.exchangePart cell = .ok (iceCell, area)) :
    sheet.exchangePart other = .ok (iceCell, Scalar.abs other.area) := by
  obtain ⟨key, found, natural, below, stored, _⟩ := exchangePart_eq_ok_iff.mp done
  refine exchangePart_eq_ok_iff.mpr ⟨key, ?_, ?_, ?_, stored, rfl⟩
  · rw [meets.j, found]
  · rw [meets.i, natural]
  · rw [meets.i, below]

/-- The overlap of a cell with an ice cell grows with its size, and is otherwise that of any cell
that it meets. -/
theorem exists_unit_cellOverlaps {overlaps : List (Overlap Rat)}
    (done : sheet.cellOverlaps cell = .ok overlaps) :
    ∃ units : List (Overlap Rat), ∀ other, cell.Meets other →
      sheet.cellOverlaps other = .ok (units.map (·.scaled (Scalar.abs other.area))) := by
  obtain ⟨⟨iceCell, area⟩, part, rest⟩ := bind_eq_ok done
  obtain ⟨masked, maskedRead, rest⟩ := bind_eq_ok rest
  cases masked with
  | true =>
      refine ⟨[], fun other meets => ?_⟩
      simp only [cellOverlaps, exchangePart_of_meets meets part, meets.j, maskedRead, bind,
        Except.bind]
      rfl
  | false =>
      obtain ⟨elevation, elevationRead, _⟩ := bind_eq_ok rest
      refine ⟨[⟨cell.i, cell.j, 1, elevation⟩], fun other meets => ?_⟩
      simp only [cellOverlaps, exchangePart_of_meets meets part, meets.i, meets.j, maskedRead,
        elevationRead, bind, Except.bind, List.map_cons, List.map_nil, Overlap.scaled, mul_one]
      rfl

/-- The overlaps of a cell with the vertices of an ice cell grow with its size, and are otherwise
those of any cell that it meets. -/
theorem exists_unit_vertexOverlaps {overlaps : List (Overlap Rat)}
    (done : sheet.vertexOverlaps cell = .ok overlaps) :
    ∃ units : List (Overlap Rat), ∀ other, cell.Meets other →
      sheet.vertexOverlaps other = .ok (units.map (·.scaled (Scalar.abs other.area))) := by
  obtain ⟨⟨iceCell, area⟩, part, rest⟩ := bind_eq_ok done
  dsimp only at rest
  by_cases none : iceCell.vertices.isEmpty = true
  · refine ⟨[], fun other meets => ?_⟩
    simp only [vertexOverlaps, exchangePart_of_meets meets part, bind, Except.bind, none, if_true]
    rfl
  · rw [if_neg none] at rest
    obtain ⟨elevation, elevationRead, rest⟩ := bind_eq_ok rest
    obtain ⟨kept, filtered, _⟩ := bind_eq_ok rest
    refine ⟨kept.map fun vertex =>
      ⟨cell.i, vertex, 1 / Scalar.ofInt iceCell.vertices.length, elevation⟩, fun other meets => ?_⟩
    have steps : sheet.vertexOverlaps other = (do
        let elevation ← sheet.meanElevation iceCell.vertices
        let share := Scalar.abs other.area / Scalar.ofInt iceCell.vertices.length
        let kept ← iceCell.vertices.filterM fun vertex => do return !(← sheet.isMasked vertex)
        return kept.map fun vertex => ⟨other.i, vertex, share, elevation⟩) := by
      rw [vertexOverlaps, exchangePart_of_meets meets part]
      exact if_neg none
    rw [steps]
    refine bind_eq_ok_iff.mpr ⟨elevation, elevationRead, bind_eq_ok_iff.mpr ⟨kept, filtered, ?_⟩⟩
    rw [List.map_map, meets.i]
    refine congrArg Except.ok (List.map_congr_left fun vertex _ => ?_)
    rw [Function.comp_apply, Overlap.scaled, mul_one_div]

/-- The overlaps of a cell grow with its size, and are otherwise those of any cell that it
meets. -/
theorem exists_units {overlaps : List (Overlap Rat)} (done : sheet.cellPart cell = .ok overlaps) :
    ∃ units : List (Overlap Rat), ∀ other, cell.Meets other →
      sheet.cellPart other = .ok (units.map (·.scaled (Scalar.abs other.area))) := by
  unfold cellPart at done ⊢
  cases kind : sheet.variant with
  | onCells =>
      rw [kind] at done
      exact exists_unit_cellOverlaps done
  | onVertices =>
      rw [kind] at done
      exact exists_unit_vertexOverlaps done

/-- The cells of another description list the same ice. -/
theorem exists_parts_rearranged {cells others : List (Cell Rat)}
    (rearranged : Rearranged cells others) {parts : List (List (Overlap Rat))}
    (each : List.Forall₂ (fun cell part => sheet.cellPart cell = .ok part) cells parts) :
    ∃ otherParts, List.Forall₂ (fun cell part => sheet.cellPart cell = .ok part) others
      otherParts ∧ SameIce parts.flatten otherParts.flatten := by
  induction rearranged generalizing parts with
  | reordered perm =>
      obtain ⟨otherParts, otherEach, otherPerm⟩ := List.perm_comp_forall₂ perm.symm each
      exact ⟨otherParts, otherEach, .of_perm otherPerm.symm.flatten⟩
  | @renumbered cell other meets area rest =>
      cases each with
      | @cons _ part _ later first restEach =>
          obtain ⟨units, unit⟩ := exists_units first
          have own := (unit other meets).trans (congrArg Except.ok (by rw [area]))
          rw [← unit cell ⟨rfl, rfl⟩, first] at own
          exact ⟨part :: later, .cons own restEach, .refl _⟩
  | turned cell rest =>
      cases each with
      | @cons _ part _ later first restEach =>
          obtain ⟨units, unit⟩ := exists_units first
          have own := (unit { cell with area := -cell.area } ⟨rfl, rfl⟩).trans
            (congrArg Except.ok (by rw [Scalar.abs_rat_neg]))
          rw [← unit cell ⟨rfl, rfl⟩, first] at own
          exact ⟨part :: later, .cons own restEach, .refl _⟩
  | @split cell one other meets meetsOther area oneSign rest =>
      cases each with
      | @cons _ part _ later first restEach =>
          obtain ⟨units, unit⟩ := exists_units first
          have whole := Except.ok.inj (first.symm.trans (unit cell ⟨rfl, rfl⟩))
          refine ⟨_, .cons (unit one meets) (.cons (unit other meetsOther) restEach), ?_⟩
          rw [List.flatten_cons, List.flatten_cons, List.flatten_cons, ← List.append_assoc, whole,
            ← area, Scalar.abs_rat_add oneSign]
          exact (sameIce_scaled_add _ _ units).append (.refl _)
  | trans _ _ firstStep secondStep =>
      obtain ⟨middle, middleEach, same⟩ := firstStep each
      obtain ⟨last, lastEach, later⟩ := secondStep middleEach
      exact ⟨last, lastEach, same.trans later⟩

/-! ### Sheets -/

/-- A sheet has the exchange cells of another one in another description. Its place among other
sheets, and the overlaps that it listed before, may be others too. -/
structure Rearranges (first second : Sheet (Grid Rat) Rat) : Prop where
  same : ∃ exchangeMesh overlaps index, second = { first with exchangeMesh, overlaps, index }
  type : second.exchangeMesh.type = first.exchangeMesh.type
  cells : Rearranged first.exchangeMesh.cells.items second.exchangeMesh.cells.items

variable {modelExtent heightPoints : Int} {overlaps own : List (Overlap Rat)}

/-- With its exchange cells in another description a sheet can be realized as well, and lists the
same ice. -/
theorem Realizable.rearranged (realizable : first.Realizable modelExtent heightPoints overlaps)
    (rearranges : first.Rearranges second) :
    ∃ own, second.Realizable modelExtent heightPoints own ∧ SameIce overlaps own := by
  obtain ⟨⟨exchangeMesh, kept, index, rfl⟩, type, cells⟩ := rearranges
  obtain ⟨checked, parts, each, rfl⟩ := listOverlaps_eq_ok_iff.mp realizable.listed
  obtain ⟨otherParts, otherEach, same⟩ := exists_parts_rearranged cells each
  have otherChecked : { first with exchangeMesh, overlaps := kept, index }.check = .ok () := by
    have sameType : exchangeMesh.type = first.exchangeMesh.type := type
    rw [← checked]
    unfold check
    simp only [sameType]
    rfl
  refine ⟨otherParts.flatten, ⟨realizable.extent, realizable.heights, realizable.iceMesh, ?_,
    listOverlaps_eq_ok_iff.mpr ⟨otherChecked, otherParts, otherEach, rfl⟩, ?_⟩, same⟩
  · intro other member
    obtain ⟨cell, cellMember, meets⟩ := cells.exists_meets other member
    obtain ⟨i, address⟩ := realizable.addresses cell cellMember
    exact ⟨i, meets.i.trans address⟩
  · intro classify kind overlap member
    obtain ⟨other, otherMember, modelCell, _, elevation⟩ := same.exists_of_mem member
    rw [← modelCell, ← elevation]
    exact realizable.classified classify kind other otherMember

/-! ### Operators -/

/-- Where an overlap stands in the operators of a sheet, by what names its row. -/
def positionBy (sheet : Sheet (Grid Rat) Rat) (place : Value → Value → Value)
    (modelCell icePoint : Value) (elevation : Rat) : Int × Int :=
  ((place modelCell icePoint).toInteger.toOption.getD 0,
    (do (← sheet.heightIndex modelCell elevation).toInteger).toOption.getD 0)

theorem Sees.entryAt {overlap : Overlap Rat} {piece : Piece} (sees : sheet.Sees overlap piece) :
    overlap.entryAt (sheet.positionBy fun modelCell _ => modelCell) = piece.modelEntry ∧
      overlap.entryAt (sheet.positionBy fun _ icePoint => icePoint) = piece.iceEntry := by
  simp only [Overlap.entryAt, positionBy, sees.modelCell, sees.icePoint, sees.column, sees.area,
    bind, Except.bind, Value.toInteger_int]
  exact ⟨rfl, rfl⟩

/-- Pieces of the same ice have the same sums in both operators. -/
theorem sameSums_of_sameIce {pieces others : List Piece}
    (sameIndex : ∀ modelCell elevation, second.heightIndex modelCell elevation =
      first.heightIndex modelCell elevation)
    (seen : List.Forall₂ first.Sees overlaps pieces)
    (otherSeen : List.Forall₂ second.Sees own others) (same : SameIce overlaps own) :
    SameSums (pieces.map Piece.modelEntry) (others.map Piece.modelEntry) ∧
      SameSums (pieces.map Piece.iceEntry) (others.map Piece.iceEntry) := by
  have entries : ∀ {sheet : Sheet (Grid Rat) Rat} {overlaps : List (Overlap Rat)}
      {pieces : List Piece}, List.Forall₂ sheet.Sees overlaps pieces →
      overlaps.map (·.entryAt (sheet.positionBy fun modelCell _ => modelCell)) =
        pieces.map Piece.modelEntry ∧
      overlaps.map (·.entryAt (sheet.positionBy fun _ icePoint => icePoint)) =
        pieces.map Piece.iceEntry := by
    intro sheet overlaps pieces seen
    induction seen with
    | nil => exact ⟨rfl, rfl⟩
    | cons sees _ inductionHypothesis =>
        simp only [List.map_cons, sees.entryAt, inductionHypothesis, and_self]
  have position : second.positionBy = first.positionBy := by
    funext place modelCell icePoint elevation
    rw [positionBy, positionBy, sameIndex]
  have otherEntries := entries otherSeen
  rw [position] at otherEntries
  rw [← (entries seen).1, ← (entries seen).2, ← otherEntries.1, ← otherEntries.2]
  exact ⟨same _, same _⟩

/-- Two sheets present pieces of the same sums, for the same extents. -/
structure Alike (first second : Sheet (Grid Rat) Rat) (modelExtent heightPoints : Int) : Prop where
  pieces : ∃ pieces others, first.Presents modelExtent heightPoints pieces ∧
    second.Presents modelExtent heightPoints others ∧
    SameSums (pieces.map Piece.modelEntry) (others.map Piece.modelEntry) ∧
    SameSums (pieces.map Piece.iceEntry) (others.map Piece.iceEntry)

theorem Alike.symm (alike : first.Alike second modelExtent heightPoints) :
    second.Alike first modelExtent heightPoints := by
  obtain ⟨pieces, others, presents, otherPresents, sameModel, sameIce⟩ := alike.pieces
  exact ⟨others, pieces, otherPresents, presents, sameModel.symm, sameIce.symm⟩

theorem Alike.computesLike (alike : first.Alike second modelExtent heightPoints) :
    first.ComputesLike second := by
  obtain ⟨pieces, others, presents, otherPresents, sameModel, sameIce⟩ := alike.pieces
  exact presents.computesLike otherPresents sameModel sameIce

/-- Realized before and after its exchange cells came into another description, a sheet presents
the same sums. -/
theorem Realizable.exists_alike (realizable : first.Realizable modelExtent heightPoints overlaps)
    (rearranges : first.Rearranges second) :
    ∃ own, second.listOverlaps = .ok own ∧
      { first with overlaps := some overlaps }.Alike { second with overlaps := some own }
        modelExtent heightPoints := by
  obtain ⟨own, otherRealizable, same⟩ := realizable.rearranged rearranges
  obtain ⟨pieces, seen, presents⟩ := realizable.realized.exists_presents
  obtain ⟨others, otherSeen, otherPresents⟩ := otherRealizable.realized.exists_presents
  have sameIndex : ∀ modelCell elevation,
      { second with overlaps := some own }.heightIndex modelCell elevation =
        { first with overlaps := some overlaps }.heightIndex modelCell elevation := by
    obtain ⟨⟨exchangeMesh, kept, index, rfl⟩, _, _⟩ := rearranges
    exact fun _ _ => rfl
  exact ⟨own, otherRealizable.listed, pieces, others, presents, otherPresents,
    sameSums_of_sameIce sameIndex seen otherSeen same⟩

end Sheet

end Regrid
