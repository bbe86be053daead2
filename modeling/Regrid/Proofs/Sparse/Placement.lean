import Regrid.Proofs.Array.Writing
import Regrid.Proofs.Sparse.Accumulator

/-!
Contract: where a dense vector has the sums of an accumulator.

Owns:
- accumulators that list their sums under different integers;
- when a vector of sums is made, and which sum each of its places has;
- that all sums are at their own indices exactly if no index is negative.

Does not own: what was added to an accumulator.

A negative index is a position from the end of the vector, so its sum goes to the place of another
index. If there is a sum under that index as well, the one whose index was seen first is lost.
-/

namespace Regrid.Accumulator

open Attempt

variable {α : Type} {accumulator : Accumulator α} {sums : List (Int × α)} {fill : α} {length : Int}
  {vector : List α}

/-! ### Sums under different integers -/

/-- The sums of an accumulator, in the order of first sight, stand under different integers. -/
structure Lists (accumulator : Accumulator α) (sums : List (Int × α)) : Prop where
  listed : accumulator.sums = sums.map fun entry => (.int entry.1, entry.2)
  distinct : (sums.map (·.1)).Nodup

theorem Integral.exists_lists (integral : accumulator.Integral)
    (distinct : (accumulator.sums.map (·.1)).Nodup) : ∃ sums, accumulator.Lists sums := by
  have each : ∀ entry ∈ accumulator.sums, ∃ sum : Int × α, (Value.int sum.1, sum.2) = entry := by
    intro entry member
    obtain ⟨n, own⟩ := integral entry member
    exact ⟨(n, entry.2), by rw [← own]⟩
  obtain ⟨sums, related⟩ := exists_forall₂ each
  have same : accumulator.sums = sums.map fun entry => (.int entry.1, entry.2) := by
    rw [← List.forall₂_eq_eq_eq, List.forall₂_map_right_iff]
    exact related.imp fun _ _ equal => equal.symm
  refine ⟨sums, same, ?_⟩
  rw [same, List.map_map] at distinct
  exact .of_map Value.int (by rwa [List.map_map])

theorem lookupKeyed_eq_some_iff (distinct : (sums.map (·.1)).Nodup) {index : Int} {x : α} :
    Value.lookupKeyed (.int index) (sums.map fun entry => (.int entry.1, entry.2)) = some x ↔
      (index, x) ∈ sums := by
  induction sums with
  | nil => simp [Value.lookupKeyed]
  | cons entry rest inductionHypothesis =>
      obtain ⟨n, y⟩ := entry
      obtain ⟨new, others⟩ := List.nodup_cons.mp distinct
      rw [List.map_cons, Value.lookupKeyed_cons, List.mem_cons]
      by_cases here : n = index
      · subst here
        have absent : (n, x) ∉ rest := fun member => new (List.mem_map.mpr ⟨(n, x), member, rfl⟩)
        simp [absent, eq_comm]
      · rw [if_neg here, inductionHypothesis others]
        simp [Ne.symm here]

theorem Lists.get?_eq_some_iff (lists : accumulator.Lists sums) {index : Int} {x : α} :
    accumulator.get? index = some x ↔ (index, x) ∈ sums := by
  rw [get?, lists.listed, lookupKeyed_eq_some_iff lists.distinct]

/-! ### Vectors of sums -/

/-- The sum that a place of a vector has: the last one, in the order of first sight, whose index
names the place. -/
def sumAt (accumulator : Accumulator α) (length place : Nat) : Option α :=
  (accumulator.sums.reverse.find? fun entry =>
    entry.1.passes fun index => IsAt length place index).map (·.2)

/-- A vector of the given length has every sum at its own index, and `fill` at all other
places. -/
structure Places (accumulator : Accumulator α) (length : Int) (fill : α) (vector : List α) :
    Prop where
  spans : (vector.length : Int) = length
  held : ∀ index x, accumulator.get? index = some x → 0 ≤ index ∧ vector[index.toNat]? = some x
  others : ∀ place : Nat, place < length → accumulator.get? place = none →
    vector[place]? = some fill

/-- A vector of sums is made exactly if it finds room and every index names one of its places. Each
place then has the last sum whose index names it, and all sums are at their own indices exactly if
no index is negative. -/
structure MakesVectors (accumulator : Accumulator α) : Prop where
  made : ∀ length fill, (∃ vector, accumulator.toDense length fill = .ok vector) ↔
    (0 ≤ length ∧ length < unaffordableLength) ∧
      ∀ index x, accumulator.get? index = some x → -length ≤ index ∧ index < length
  entries : ∀ length fill vector, accumulator.toDense length fill = .ok vector →
    (vector.length : Int) = length ∧ ∀ place : Nat, place < length →
      vector[place]? = some ((accumulator.sumAt length.toNat place).getD fill)
  own : ∀ length fill vector, accumulator.toDense length fill = .ok vector →
    (accumulator.Places length fill vector ↔
      ∀ index x, accumulator.get? index = some x → 0 ≤ index)

theorem Lists.sumAt_eq (lists : accumulator.Lists sums) (length place : Nat) :
    accumulator.sumAt length place = latest length place sums := by
  rw [sumAt, latest, lists.listed, ← List.map_reverse, List.find?_map, Option.map_map]
  rfl

theorem Lists.toDense_eq_ok_iff (lists : accumulator.Lists sums) :
    accumulator.toDense length fill = .ok vector ↔
      (0 ≤ length ∧ length < unaffordableLength) ∧
        write (List.replicate length.toNat fill) sums = .ok vector := by
  have written (room : 0 ≤ length ∧ length < unaffordableLength) :
      sums.foldlM (fun items entry => writeAt items (.int entry.1) entry.2)
          (List.replicate length.toNat fill) = .ok vector ↔
        write (List.replicate length.toNat fill) sums = .ok vector := by
    apply foldlM_writeAt_eq_ok_iff
    rw [List.length_replicate]
    omega
  simp only [toDense, bind_eq_ok_iff, filled_eq_ok_iff, lists.listed, List.foldlM_map]
  constructor
  · rintro ⟨_, ⟨room, rfl⟩, done⟩
    exact ⟨room, (written room).mp done⟩
  · rintro ⟨room, done⟩
    exact ⟨_, ⟨room, rfl⟩, (written room).mpr done⟩

/-- Where no index is negative, different sums go to different places. -/
theorem Lists.places_of_natural (lists : accumulator.Lists sums)
    (done : accumulator.toDense length fill = .ok vector)
    (natural : ∀ index x, accumulator.get? index = some x → 0 ≤ index) :
    accumulator.Places length fill vector := by
  obtain ⟨room, written⟩ := lists.toDense_eq_ok_iff.mp done
  have below := exists_write_iff.mp ⟨vector, written⟩
  have inside : ∀ entry ∈ sums,
      0 ≤ entry.1 ∧ entry.1 < (List.replicate length.toNat fill).length := fun entry member =>
    ⟨natural _ _ (lists.get?_eq_some_iff.mpr member), (below entry member).2⟩
  obtain ⟨other, again, long, each, kept⟩ := write_of_distinct lists.distinct inside
  obtain rfl := Except.ok.inj (written.symm.trans again)
  refine ⟨?_, fun index x held => ?_, fun place under absent => ?_⟩
  · rw [long, List.length_replicate]
    omega
  · exact ⟨natural index x held, each _ (lists.get?_eq_some_iff.mp held)⟩
  · have elsewhere : ∀ entry ∈ sums, entry.1 ≠ place := by
      rintro ⟨index, x⟩ member rfl
      cases absent.symm.trans (lists.get?_eq_some_iff.mpr member)
    rw [kept place elsewhere, List.getElem?_replicate, if_pos (by omega)]

theorem Lists.makesVectors (lists : accumulator.Lists sums) : accumulator.MakesVectors where
  made length fill := by
    simp only [lists.toDense_eq_ok_iff, exists_and_left, exists_write_iff, List.length_replicate,
      lists.get?_eq_some_iff, Prod.forall]
    refine and_congr_right fun room => ?_
    rw [Int.toNat_of_nonneg room.1]
  entries length fill vector done := by
    obtain ⟨room, written⟩ := lists.toDense_eq_ok_iff.mp done
    have long := length_of_write written
    rw [List.length_replicate] at long
    refine ⟨by omega, fun place below => ?_⟩
    have inside : place < (List.replicate length.toNat fill).length := by
      rw [List.length_replicate]
      omega
    rw [getElem?_write written inside, List.length_replicate, lists.sumAt_eq,
      List.getElem?_replicate, if_pos (by omega)]
    cases latest length.toNat place sums <;> rfl
  own length fill vector done :=
    ⟨fun places index x held => (places.held index x held).1, lists.places_of_natural done⟩

end Regrid.Accumulator
