import Regrid.Proofs.Sparse.IndexSet
import Regrid.Proofs.Sparse.Stored

/-!
Contract: native vectors in dense order and back.

Owns:
- gathering, which reads a vector at the native indices;
- spreading, which writes a vector at the native indices and `fill` everywhere else, and the
  extents for which there is room.

Does not own: how index sets come about.
-/

namespace Regrid.IndexSet

open Attempt

variable {α : Type} {set : IndexSet}

/-- Indices below an extent of 64 bits are read as they are. -/
theorem Proper.nativeWords (proper : set.Proper)
    (fits : word set.sparseExtent = .ok set.sparseExtent) : set.nativeWords = .ok set.natives :=
  nativeWords_eq_ok_iff.mpr ⟨rfl, fun native member =>
    word_of_lt (proper.inside native member).1 (proper.inside native member).2 fits⟩

theorem cut_one (items : List α) : Tensor.cut 1 items.length items = items.map fun x => [x] := by
  induction items with
  | nil => rfl
  | cons x rest inductionHypothesis => simp [Tensor.cut, inductionHypothesis]

theorem mem_zip_map {items : List Int} (f : Int → α) {item : Int} (member : item ∈ items) :
    (item, f item) ∈ items.zip (items.map f) := by
  have pairs := List.zip_map' (f := id) (g := f) (l := items)
  rw [List.map_id] at pairs
  rw [pairs]
  exact List.mem_map_of_mem member

/-- Gathering a vector reads it at the native indices. -/
theorem gather_of_inside (fallback : α) {vector : List α}
    (long : set.sparseExtent ≤ vector.length) (words : set.nativeWords = .ok set.natives)
    (inside : ∀ native ∈ set.natives, 0 ≤ native ∧ native < set.sparseExtent) :
    set.gather (.ofList vector) = .ok ⟨[set.natives.length],
      set.natives.map fun native => vector.getD native.toNat fallback⟩ := by
  have read : itemsAt (vector.map fun x => [x]) set.natives =
      .ok (set.natives.map fun native => [vector.getD native.toNat fallback]) := by
    refine (mapM_eq_ok_iff ..).mpr (List.forall₂_map_right_iff.mpr (List.forall₂_same.mpr ?_))
    intro native member
    obtain ⟨natural, below⟩ := inside native member
    have bound : native.toNat < vector.length := by omega
    refine itemAt_of_natural natural ?_
    rw [List.getElem?_map, List.getD_eq_getElem?_getD, List.getElem?_eq_getElem bound]
    rfl
  have flat : (set.natives.map fun native => [vector.getD native.toNat fallback]).flatten =
      set.natives.map fun native => vector.getD native.toNat fallback := by
    rw [← List.flatMap_def, ← List.map_eq_flatMap]
  have fits : ¬ ((vector.length : Int) < set.sparseExtent) := by omega
  simp only [gather, leadingSize, Tensor.ofList, bind, Except.bind, pure, Except.pure,
    if_neg fits, words, List.drop_one, List.tail_cons]
  have volume : Tensor.volume [] = 1 := rfl
  rw [volume, cut_one, read]
  simp only [flat]

/-- Spreading a vector puts its items at the native indices, and `fill` everywhere else. -/
theorem Proper.exists_spread (proper : set.Proper) (fill : α) {items : List α}
    (counted : items.length = set.natives.length)
    (short : set.sparseExtent < unaffordableLength) :
    ∃ spread, set.spread fill ⟨[items.length], items⟩ = .ok spread ∧
      (spread.length : Int) = set.sparseExtent ∧
      (∀ entry ∈ set.natives.zip items, spread[entry.1.toNat]? = some entry.2) ∧
      ∀ place : Nat, place < set.sparseExtent → (place : Int) ∉ set.natives →
        spread[place]? = some fill := by
  have words := proper.nativeWords (word_of_natural proper.natural short)
  have positions : (set.natives.zip items).map (·.1) = set.natives := List.map_fst_zip (by omega)
  let blank := List.replicate set.sparseExtent.toNat fill
  have covered : ∀ entry ∈ set.natives.zip items, 0 ≤ entry.1 ∧ entry.1 < blank.length := by
    intro entry member
    have bounds := proper.inside entry.1 (List.of_mem_zip member).1
    rw [List.length_replicate]
    omega
  obtain ⟨written, done, length, each, others⟩ :=
    write_of_distinct (positions.symm ▸ proper.distinct) covered
  rw [List.length_replicate] at length
  refine ⟨written, ?_, ?_, each, fun place below untouched => ?_⟩
  · have matching : ¬ items.length ≠ set.denseExtent := not_not.mpr counted
    simp only [spread, leadingSize, bind, Except.bind, if_neg matching,
      filled_eq_ok_iff.mpr ⟨⟨proper.natural, short⟩, rfl⟩, words]
    exact (if_pos (.inl rfl)).trans done
  · rw [length]
    exact Int.toNat_of_nonneg proper.natural
  · rw [others place, List.getElem?_replicate, if_pos (by omega)]
    intro entry member same
    exact untouched (same ▸ (List.of_mem_zip member).1)

theorem gather_eq_ok_iff {array dense : Tensor α} :
    set.gather array = .ok dense ↔
      ∃ length, leadingSize array = .ok length ∧ set.sparseExtent ≤ length ∧
        ∃ natives, set.nativeWords = .ok natives ∧
          ∃ gathered, itemsAt (Tensor.cut (Tensor.volume (array.shape.drop 1)) length array.items)
              natives = .ok gathered ∧
            dense = ⟨natives.length :: array.shape.drop 1, gathered.flatten⟩ := by
  have turned : ∀ first second : Tensor α, first = second ↔ second = first := fun _ _ => eq_comm
  simp only [gather, bind_eq_ok_iff, refuse_eq_ok_iff, Int.not_lt, pure, Except.pure,
    Except.ok.injEq, turned dense]

/-- What is spread has one item for each index, and a vector over the native space finds room. -/
theorem spread_eq_ok {fill : α} {array : Tensor α} {items : List α}
    (done : set.spread fill array = .ok items) :
    leadingSize array = .ok set.natives.length ∧ (items.length : Int) = set.sparseExtent ∧
      set.sparseExtent < unaffordableLength := by
  obtain ⟨length, sized, rest⟩ := bind_eq_ok done
  obtain ⟨counted, rest⟩ := refuse_eq_ok_iff.mp rest
  obtain ⟨blank, made, rest⟩ := bind_eq_ok rest
  obtain ⟨natives, _, rest⟩ := bind_eq_ok rest
  obtain ⟨⟨natural, short⟩, rfl⟩ := filled_eq_ok_iff.mp made
  refine ⟨by rw [sized, not_not.mp counted]; rfl, ?_, short⟩
  split at rest
  · rw [length_of_write rest, List.length_replicate]
    exact Int.toNat_of_nonneg natural
  · cases rest

/-- Gathering and spreading see the indices of a set and its extent. -/
theorem spread_congr {grown : IndexSet} (fill : α) (array : Tensor α)
    (same : grown.natives = set.natives) (extent : grown.sparseExtent = set.sparseExtent) :
    grown.spread fill array = set.spread fill array := by
  unfold spread denseExtent nativeWords
  rw [same, extent]

end Regrid.IndexSet
