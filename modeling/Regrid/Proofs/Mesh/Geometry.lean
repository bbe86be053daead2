import Regrid.Mesh.Geometry
import Regrid.Proofs.Array.Position
import Regrid.Proofs.Mesh.Soundness

/-!
Contract: what a sound mesh answers about its cells is complete.

Owns:
- polygons, which exist for every cell;
- vectors over the domain, which hold one item for every position.

Does not own: what a polygon encloses.
-/

namespace Regrid.Mesh

open Attempt

variable {α : Type} {grid : Grid α}

/-! ### Polygons -/

theorem Names.getAt {reference : Value} (named : grid.Names reference) :
    ∃ vertex, grid.vertices.getAt reference = .ok vertex := by
  obtain ⟨key, used, found⟩ := named.member?
  cases got : grid.vertices.get? key with
  | some vertex => exact ⟨vertex, by simp [Table.getAt, found, bind, Except.bind, Table.get, got]⟩
  | none => exact absurd used (Table.not_mem_keys_of_get? got)

/-- Every reference of a cell leads to a corner. -/
theorem Sound.exists_polygon (sound : grid.Sound (.held α)) {cell : Cell α}
    (member : cell ∈ grid.cells.items) : ∃ polygon, grid.polygon cell = .ok polygon := by
  refine exists_mapM_eq_ok fun reference referenceMember => ?_
  obtain ⟨vertex, got⟩ := (sound.references cell member reference referenceMember).getAt
  exact ⟨vertex.point, by rw [got]; rfl⟩

/-! ### Vectors -/

/-- Items written one after the other under different positions: each position holds its
item, and the other positions what they held. -/
theorem foldlM_writeAt {value : Cell α → Except Error α} {f : Cell α → α}
    (entries : List (Int × Cell α)) (distinct : (entries.map (·.1)).Nodup) (vector : List α)
    (fits : ∀ entry ∈ entries, entry.2.index = .int entry.1 ∧ 0 ≤ entry.1 ∧
      entry.1 < vector.length ∧ value entry.2 = .ok (f entry.2))
    (short : vector.length ≤ unaffordableLength) :
    ∃ result, (entries.map (·.2)).foldlM
        (fun vector cell => do writeAt vector cell.index (← value cell)) vector = .ok result ∧
      result.length = vector.length ∧
      ∀ position : Nat, result[position]? = vector[position]?.map fun before =>
        ((entries.find? (·.1 == (position : Int))).map (f ·.2)).getD before := by
  induction entries generalizing vector with
  | nil => exact ⟨vector, rfl, rfl, fun position => by simp⟩
  | cons entry rest inductionHypothesis =>
      obtain ⟨own, natural, inside, answered⟩ := fits entry (by simp)
      obtain ⟨new, restDistinct⟩ := List.nodup_cons.mp distinct
      have written : writeAt vector entry.2.index (f entry.2) =
          .ok (vector.set entry.1.toNat (f entry.2)) := by
        rw [own]
        exact writeAt_of_natural natural inside short _
      obtain ⟨result, done, sameLength, items⟩ := inductionHypothesis restDistinct
        (vector.set entry.1.toNat (f entry.2))
        (fun other member => by simpa using fits other (by simp [member])) (by simpa using short)
      refine ⟨result, ?_, by simpa using sameLength, fun position => ?_⟩
      · rw [List.map_cons, List.foldlM_cons, answered]
        simp only [bind, Except.bind, written]
        exact done
      · rw [items position, List.getElem?_set]
        by_cases here : entry.1.toNat = position
        · have key : entry.1 = position := by omega
          have absent : rest.find? (·.1 == (position : Int)) = none := by
            rw [List.find?_eq_none]
            intro other member same
            exact new (List.mem_map.mpr ⟨other, member, by simpa [key] using same⟩)
          have within : position < vector.length := by omega
          simp [absent, key, within]
        · have other : (entry.1 == (position : Int)) = false := by
            rw [beq_eq_false_iff_ne]
            omega
          simp [here, other]

/-- The vector over the domain of what is computed from each cell. -/
theorem Sound.cellVector (sound : grid.Sound (.held α)) (fill : α)
    {value : Cell α → Except Error α} {f : Cell α → α}
    (each : ∀ cell ∈ grid.cells.items, value cell = .ok (f cell)) :
    grid.cellVector fill value = (do
      checkLength grid.cells.extent
      return (List.range grid.cells.extent.toNat).map fun position : Nat =>
        ((grid.cells.get? (position : Int)).map f).getD fill) := by
  unfold Mesh.cellVector filled
  cases checked : checkLength grid.cells.extent with
  | error reason => rfl
  | ok _ =>
      have short : (grid.cells.extent.toNat : Int) ≤ unaffordableLength := by
        have bounds := checkLength_eq_ok_iff.mp checked
        omega
      obtain ⟨result, done, length, items⟩ := foldlM_writeAt grid.cells.entries
        sound.cells.distinct (List.replicate grid.cells.extent.toNat fill) (by
          intro entry member
          have used := Table.mem_keys_of_mem member
          have below := sound.cells.top_lt_extent
          have atMost := sound.cells.le_top _ used
          have natural := sound.cells.natural _ used
          rw [List.length_replicate]
          exact ⟨sound.cells.indexed _ _ member, natural, by omega,
            each _ (Table.mem_items_of_mem member)⟩) (by simpa using short)
      refine done.trans (congrArg Except.ok (List.ext_getElem? fun position => ?_))
      rw [items position, List.getElem?_map, List.getElem?_replicate]
      by_cases within : position < grid.cells.extent.toNat
      · simp [within, Table.get?, Function.comp_def]
      · simp [within]

end Regrid.Mesh
