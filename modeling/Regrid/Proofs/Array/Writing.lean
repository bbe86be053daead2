import Regrid.Proofs.Array.Position

/-!
Contract: writing at signed positions, of which two may name one place.

Owns:
- the two positions that name a place, one from the start and one from the end of a vector;
- when a list of entries is written;
- what a place holds afterwards, which is the last entry at a position that names it.

Does not own: which positions are written.
-/

namespace Regrid

variable {α : Type} {length : Nat} {items written : List α} {entries : List (Int × α)}

/-! ### Places -/

/-- A position names a place of a vector from its start or from its end. -/
def IsAt (length place : Nat) (position : Int) : Prop :=
  position = place ∨ position + length = place

instance (length place : Nat) (position : Int) : Decidable (IsAt length place position) :=
  inferInstanceAs (Decidable (_ ∨ _))

theorem place_eq_ok_iff {position : Int} {index : Nat} :
    place length position = .ok index ↔ index < length ∧ IsAt length index position := by
  unfold place IsAt
  split
  next inside =>
    rw [Except.ok.injEq]
    omega
  next outside =>
    split
    next fromEnd =>
      rw [Except.ok.injEq]
      omega
    next => exact ⟨nofun, fun named => by omega⟩

theorem exists_place_iff {position : Int} :
    (∃ index, place length position = .ok index) ↔
      -(length : Int) ≤ position ∧ position < length := by
  simp only [place_eq_ok_iff, IsAt]
  constructor
  · rintro ⟨index, below, named⟩
    omega
  · intro inside
    by_cases natural : 0 ≤ position
    · exact ⟨position.toNat, by omega, .inl (by omega)⟩
    · exact ⟨(position + length).toNat, by omega, .inr (by omega)⟩

/-- The last of several entries at positions that name a place. -/
def latest (length index : Nat) (entries : List (Int × α)) : Option α :=
  (entries.reverse.find? fun entry => IsAt length index entry.1).map (·.2)

theorem latest_cons (length index : Nat) (entry : Int × α) (rest : List (Int × α)) :
    latest length index (entry :: rest) =
      (latest length index rest).or (if IsAt length index entry.1 then some entry.2 else none) := by
  unfold latest
  rw [List.reverse_cons, List.find?_append, Option.map_or]
  by_cases named : IsAt length index entry.1 <;> simp [named]

/-! ### Writing -/

/-- Entries are written exactly if all their positions name places. -/
theorem exists_write_iff : (∃ written, write items entries = .ok written) ↔
    ∀ entry ∈ entries, -(items.length : Int) ≤ entry.1 ∧ entry.1 < items.length := by
  induction entries generalizing items with
  | nil => exact ⟨fun _ => nofun, fun _ => ⟨items, rfl⟩⟩
  | cons entry rest inductionHypothesis =>
      obtain ⟨position, x⟩ := entry
      rw [List.forall_mem_cons, ← exists_place_iff]
      constructor
      · rintro ⟨written, done⟩
        obtain ⟨index, placed, later⟩ := Attempt.bind_eq_ok done
        have others := inductionHypothesis.mp ⟨written, later⟩
        rw [List.length_set] at others
        exact ⟨⟨index, placed⟩, others⟩
      · rintro ⟨⟨index, placed⟩, others⟩
        have long : (items.set index x).length = items.length := List.length_set
        rw [← long] at others
        obtain ⟨written, later⟩ := inductionHypothesis.mpr others
        exact ⟨written, Attempt.bind_eq_ok_iff.mpr ⟨index, placed, later⟩⟩

theorem getElem?_write (done : write items entries = .ok written) {index : Nat}
    (inside : index < items.length) :
    written[index]? = (latest items.length index entries).or items[index]? := by
  induction entries generalizing items with
  | nil =>
      cases done
      rfl
  | cons entry rest inductionHypothesis =>
      obtain ⟨position, x⟩ := entry
      obtain ⟨first, placed, later⟩ := Attempt.bind_eq_ok done
      obtain ⟨below, named⟩ := place_eq_ok_iff.mp placed
      have others := inductionHypothesis later (by rwa [List.length_set])
      rw [List.length_set] at others
      rw [others, latest_cons, Option.or_assoc]
      congr 1
      by_cases here : first = index
      · subst here
        rw [if_pos named, List.getElem?_set_self below]
        rfl
      · have elsewhere : ¬ IsAt items.length index position := by
          unfold IsAt at named ⊢
          omega
        rw [if_neg elsewhere, List.getElem?_set_ne here, Option.none_or]

/-! ### Writing at values -/

/-- A position of more than 64 bits is outside of every vector that finds room. -/
theorem writeAt_int_eq_ok_iff (short : items.length ≤ unaffordableLength) {position : Int} {x : α} :
    writeAt items (.int position) x = .ok written ↔ write items [(position, x)] = .ok written := by
  rw [writeAt, Attempt.ite_error_eq_ok_iff, and_iff_right_iff_imp]
  intro done tooLarge
  have inside := exists_write_iff.mp ⟨written, done⟩ (position, x) (by simp)
  simp only [Scalar.leastInt64, unaffordableLength] at short tooLarge
  omega

theorem foldlM_writeAt_eq_ok_iff (short : items.length ≤ unaffordableLength) :
    entries.foldlM (fun items entry => writeAt items (.int entry.1) entry.2) items = .ok written ↔
      write items entries = .ok written := by
  induction entries generalizing items with
  | nil => exact Iff.rfl
  | cons entry rest inductionHypothesis =>
      obtain ⟨position, x⟩ := entry
      rw [List.foldlM_cons, Attempt.bind_eq_ok_iff, write, Attempt.bind_eq_ok_iff]
      simp only [writeAt_int_eq_ok_iff short, write, Attempt.bind_eq_ok_iff]
      constructor
      · rintro ⟨middle, ⟨index, placed, same⟩, later⟩
        obtain rfl := Except.ok.inj same
        exact ⟨index, placed, (inductionHypothesis (by rwa [List.length_set])).mp later⟩
      · rintro ⟨index, placed, later⟩
        exact ⟨_, ⟨index, placed, rfl⟩, (inductionHypothesis (by rwa [List.length_set])).mpr later⟩

end Regrid
