import Regrid.Array.Listing
import Regrid.Array.Position
import Regrid.Proofs.Attempt

/-!
Contract: positions inside a vector.

Owns:
- reading and writing where the position is natural and below the length;
- writing at different positions, after which each of them holds what was written there;
- numbers that fit 64 bits, and lengths that find room.

Does not own: positions that count from the end.
-/

namespace Regrid

variable {α : Type}

theorem place_of_natural {length : Nat} {position : Int} (natural : 0 ≤ position)
    (inside : position < length) : place length position = .ok position.toNat := by
  rw [place, if_pos ⟨natural, inside⟩]

theorem writeAt_of_natural {vector : List α} {position : Int} (natural : 0 ≤ position)
    (inside : position < vector.length) (short : vector.length ≤ unaffordableLength) (x : α) :
    writeAt vector (.int position) x = .ok (vector.set position.toNat x) := by
  have small : ¬ (-Scalar.leastInt64 ≤ position ∧ position < -2 * Scalar.leastInt64) := by
    simp only [Scalar.leastInt64, unaffordableLength] at short ⊢
    omega
  simp only [writeAt, if_neg small, write, place_of_natural natural inside, bind, Except.bind]

theorem itemAt_of_natural {items : List α} {position : Int} {x : α} (natural : 0 ≤ position)
    (found : items[position.toNat]? = some x) : itemAt items position = .ok x := by
  have bound := (List.getElem?_eq_some_iff.mp found).1
  simp only [itemAt, place_of_natural natural (by omega : position < items.length), bind,
    Except.bind, found]

theorem exists_itemAtValue {items : List α} {position : Int} (natural : 0 ≤ position)
    (inside : position < items.length) : ∃ x, itemAtValue items (.int position) = .ok x :=
  ⟨_, itemAt_of_natural natural (List.getElem?_eq_getElem (by omega))⟩

theorem itemAt_natCast_eq_ok_iff {items : List α} {number : Nat} {x : α} :
    itemAt items number = .ok x ↔ items[number]? = some x := by
  constructor
  · intro found
    obtain ⟨index, placed, found⟩ := Attempt.bind_eq_ok found
    have natural : ¬ (number : Int) < 0 := Int.not_lt.mpr (Int.natCast_nonneg number)
    unfold place at placed
    split at placed
    · cases placed
      rw [Int.toNat_natCast] at found
      cases held : items[number]? with
      | none =>
          rw [held] at found
          cases found
      | some y =>
          rw [held] at found
          rw [Except.ok.inj found]
    · rw [if_neg fun both => natural both.1] at placed
      cases placed
  · intro found
    exact itemAt_of_natural (Int.natCast_nonneg number) found

theorem word_eq_ok_iff {n m : Int} :
    word n = .ok m ↔ n = m ∧ Scalar.leastInt64 ≤ n ∧ n < -Scalar.leastInt64 := by
  unfold word
  split
  next inside =>
    rw [Except.ok.injEq]
    exact (and_iff_left inside).symm
  next outside =>
    constructor
    · nofun
    · exact fun both => absurd both.2 outside

theorem word_eq_ok {n m : Int} (done : word n = .ok m) : n = m := (word_eq_ok_iff.mp done).1

theorem word_of_natural {n : Int} (natural : 0 ≤ n) (short : n < unaffordableLength) :
    word n = .ok n := by
  refine word_eq_ok_iff.mpr ⟨rfl, ?_⟩
  simp only [Scalar.leastInt64, unaffordableLength] at short ⊢
  omega

theorem word_of_lt {n m : Int} (natural : 0 ≤ m) (below : m < n) (fits : word n = .ok n) :
    word m = .ok m := by
  obtain ⟨_, inside⟩ := word_eq_ok_iff.mp fits
  refine word_eq_ok_iff.mpr ⟨rfl, ?_⟩
  simp only [Scalar.leastInt64] at inside ⊢
  omega

theorem checkLength_eq_ok_iff {length : Int} :
    checkLength length = .ok () ↔ 0 ≤ length ∧ length < unaffordableLength := by
  rw [checkLength, Attempt.ite_error_eq_ok_iff, Attempt.ite_error_eq_ok_iff, and_iff_left rfl]
  simp only [unnameableLength, unaffordableLength]
  omega

theorem filled_eq_ok_iff {fill : α} {length : Int} {items : List α} :
    filled fill length = .ok items ↔
      (0 ≤ length ∧ length < unaffordableLength) ∧ items = List.replicate length.toNat fill := by
  rw [filled, Attempt.bind_eq_ok_iff, ← checkLength_eq_ok_iff]
  constructor
  · rintro ⟨_, checked, same⟩
    exact ⟨checked, (Except.ok.inj same).symm⟩
  · rintro ⟨checked, rfl⟩
    exact ⟨(), checked, rfl⟩

theorem length_of_write {items written : List α} {entries : List (Int × α)}
    (done : write items entries = .ok written) : written.length = items.length := by
  induction entries generalizing items with
  | nil =>
      cases done
      rfl
  | cons entry rest inductionHypothesis =>
      obtain ⟨index, _, later⟩ := Attempt.bind_eq_ok done
      rw [inductionHypothesis later, List.length_set]

/-- After writing at different positions inside a vector, each of them holds its item, and all
others hold what they held. -/
theorem write_of_distinct {items : List α} {entries : List (Int × α)}
    (distinct : (entries.map (·.1)).Nodup)
    (inside : ∀ entry ∈ entries, 0 ≤ entry.1 ∧ entry.1 < items.length) :
    ∃ written, write items entries = .ok written ∧ written.length = items.length ∧
      (∀ entry ∈ entries, written[entry.1.toNat]? = some entry.2) ∧
      ∀ place : Nat, (∀ entry ∈ entries, entry.1 ≠ place) → written[place]? = items[place]? := by
  induction entries generalizing items with
  | nil => exact ⟨items, rfl, rfl, by simp, fun _ _ => rfl⟩
  | cons entry rest inductionHypothesis =>
      obtain ⟨position, x⟩ := entry
      obtain ⟨new, others⟩ := List.nodup_cons.mp distinct
      obtain ⟨natural, below⟩ := inside (position, x) (by simp)
      have stillInside : ∀ other ∈ rest,
          0 ≤ other.1 ∧ other.1 < (items.set position.toNat x).length := by
        intro other member
        rw [List.length_set]
        exact inside other (by simp [member])
      obtain ⟨written, done, length, each, kept⟩ := inductionHypothesis others stillInside
      rw [List.length_set] at length
      refine ⟨written, ?_, length, ?_, ?_⟩
      · simp only [write, place_of_natural natural below, bind, Except.bind, done]
      · intro other member
        rcases List.mem_cons.mp member with rfl | later
        · rw [kept, List.getElem?_set_self (by omega)]
          intro entry entryMember same
          refine new (List.mem_map.mpr ⟨entry, entryMember, ?_⟩)
          simp only at same ⊢
          omega
        · exact each other later
      · intro place different
        have first := different (position, x) (by simp)
        rw [kept place fun other member => different other (by simp [member]),
          List.getElem?_set_ne]
        simp only at first
        omega

end Regrid
