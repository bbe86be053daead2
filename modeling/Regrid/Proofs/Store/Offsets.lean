import Mathlib.Algebra.GroupWithZero.Nat
import Mathlib.Data.List.Chain
import Regrid.Store.GridTables

/-!
Contract: a list that is kept as one concatenation and the offsets of its parts.

Owns:
- when offsets that fit cut a concatenation without gaps or overlaps;
- the offsets of given parts, which cut their concatenation into these parts;
- when the wrapped differences of offsets tell whether they fall.

Does not own: what the parts mean.
-/

namespace Regrid.GridTables

variable {β : Type}

/-! ### Slices -/

theorem sliceBound_of_natural {length : Nat} {bound : Int} (natural : 0 ≤ bound)
    (inside : bound ≤ length) : sliceBound length bound = bound.toNat := by
  unfold sliceBound
  rw [if_neg (by omega)]
  omega

/-- A slice closes the gap between what follows its start and what follows its end. -/
theorem slice_append_drop (items : List Int) {start stop : Int} (natural : 0 ≤ start)
    (ordered : start ≤ stop) (inside : stop ≤ items.length) :
    slice items start stop ++ items.drop stop.toNat = items.drop start.toNat := by
  unfold slice
  simp only []
  rw [sliceBound_of_natural natural (by omega), sliceBound_of_natural (by omega) inside]
  have reaches : start.toNat ≤ (items.take stop.toNat).length := by
    rw [List.length_take]
    omega
  rw [← List.drop_append_of_le_length reaches, List.take_append_drop]

/-! ### Reading parts -/

theorem length_referenceLists (references offsets : List Int) :
    (referenceLists references offsets).length = offsets.length - 1 := by
  fun_induction referenceLists references offsets with
  | case1 start stop rest inductionHypothesis => simp [inductionHypothesis]
  | case2 offsets short =>
      match offsets with
      | [] => rfl
      | [_] => rfl
      | start :: stop :: rest => exact absurd rfl (short start stop rest)

private theorem le_getLast? {rest : List Int} {start finish : Int}
    (ascending : (start :: rest).Pairwise (· ≤ ·))
    (last : (start :: rest).getLast? = some finish) : start ≤ finish := by
  rcases List.mem_cons.mp (List.mem_of_getLast? last) with same | member
  · exact Int.le_of_eq same.symm
  · exact (List.pairwise_cons.mp ascending).1 finish member

/-- Offsets that never fall cut everything from the first one to the last one. -/
theorem flatten_referenceLists_append_drop (references rest : List Int) (start finish : Int)
    (natural : 0 ≤ start) (ascending : (start :: rest).Pairwise (· ≤ ·))
    (last : (start :: rest).getLast? = some finish) (inside : finish ≤ references.length) :
    (referenceLists references (start :: rest)).flatten ++ references.drop finish.toNat =
      references.drop start.toNat := by
  induction rest generalizing start with
  | nil =>
      obtain rfl : start = finish := by simpa using last
      simp [referenceLists]
  | cons stop rest inductionHypothesis =>
      obtain ⟨atLeast, later⟩ := List.pairwise_cons.mp ascending
      rw [List.getLast?_cons_cons] at last
      have ordered : start ≤ stop := atLeast stop (by simp)
      have reached := le_getLast? later last
      rw [referenceLists, List.flatten_cons, List.append_assoc,
        inductionHypothesis stop (by omega) later last]
      exact slice_append_drop references natural ordered (by omega)

/-- Offsets cut a list of the given length: they start at zero, never fall, and end at the
length. -/
structure Cuts (length : Nat) (offsets : List Int) : Prop where
  first : offsets.head? = some 0
  ascending : offsets.Pairwise (· ≤ ·)
  last : offsets.getLast? = some (length : Int)

/-- The parts that are cut are the whole, without gaps or overlaps. -/
theorem Cuts.flatten {references offsets : List Int} (cuts : Cuts references.length offsets) :
    (referenceLists references offsets).flatten = references := by
  obtain ⟨first, ascending, last⟩ := cuts
  obtain ⟨rest, rfl⟩ := List.head?_eq_some_iff.mp first
  have whole := flatten_referenceLists_append_drop references rest 0 _ (Int.le_refl 0)
    ascending last (Int.le_refl _)
  simpa using whole

theorem length_slice (items : List Int) {start stop : Int} (natural : 0 ≤ start)
    (ordered : start ≤ stop) (inside : stop ≤ items.length) :
    start + ((slice items start stop).length : Int) = stop := by
  unfold slice
  simp only []
  rw [sliceBound_of_natural natural (by omega), sliceBound_of_natural (by omega) inside,
    List.length_drop, List.length_take]
  omega

/-- The offsets after a start are those of the parts that they cut. -/
theorem offsetsFrom_referenceLists (references rest : List Int) (start finish : Int)
    (natural : 0 ≤ start) (ascending : (start :: rest).Pairwise (· ≤ ·))
    (last : (start :: rest).getLast? = some finish) (inside : finish ≤ references.length) :
    offsetsFrom start ((referenceLists references (start :: rest)).map List.length) =
      start :: rest := by
  induction rest generalizing start with
  | nil => rfl
  | cons stop rest inductionHypothesis =>
      obtain ⟨atLeast, later⟩ := List.pairwise_cons.mp ascending
      rw [List.getLast?_cons_cons] at last
      have ordered : start ≤ stop := atLeast stop (by simp)
      have reached := le_getLast? later last
      rw [referenceLists, List.map_cons, offsetsFrom, length_slice references natural ordered
        (by omega), inductionHypothesis stop (by omega) later last]

theorem Cuts.offsets_eq {references offsets : List Int} (cuts : Cuts references.length offsets) :
    offsets = offsetsFrom 0 ((referenceLists references offsets).map List.length) := by
  obtain ⟨first, ascending, last⟩ := cuts
  obtain ⟨rest, rfl⟩ := List.head?_eq_some_iff.mp first
  exact (offsetsFrom_referenceLists references rest 0 _ (Int.le_refl 0) ascending last
    (Int.le_refl _)).symm

/-! ### Differences that wrap -/

/-- Neighbouring offsets differ by what 64 bits hold. -/
def StepsFit (offsets : List Int) : Prop :=
  offsets.IsChain fun start stop => -0x8000000000000000 ≤ stop - start ∧
    stop - start < 0x8000000000000000

instance : DecidablePred StepsFit := fun offsets =>
  inferInstanceAs (Decidable (offsets.IsChain _))

theorem all_differences_iff {offsets : List Int} (fit : StepsFit offsets) :
    ((differences offsets).all fun step => 0 ≤ step) = true ↔ offsets.Pairwise (· ≤ ·) := by
  rw [← List.isChain_iff_pairwise]
  induction offsets with
  | nil => simp [differences]
  | cons start rest inductionHypothesis =>
      cases rest with
      | nil => simp [differences]
      | cons stop rest =>
          obtain ⟨step, later⟩ := List.isChain_cons_cons.mp fit
          have unwrapped : (stop - start).bmod 0x10000000000000000 = stop - start := by
            rw [Int.bmod_eq_of_le] <;> omega
          rw [differences, List.all_cons, Bool.and_eq_true, inductionHypothesis later,
            List.isChain_cons_cons, unwrapped]
          simp

theorem Cuts.bounds {length : Nat} {offsets : List Int} (cuts : Cuts length offsets) :
    ∀ offset ∈ offsets, 0 ≤ offset ∧ offset ≤ length := by
  obtain ⟨first, ascending, last⟩ := cuts
  intro offset member
  constructor
  · obtain ⟨rest, rfl⟩ := List.head?_eq_some_iff.mp first
    rcases List.mem_cons.mp member with rfl | later
    · exact Int.le_refl 0
    · exact (List.pairwise_cons.mp ascending).1 offset later
  · obtain ⟨before, rfl⟩ := List.getLast?_eq_some_iff.mp last
    rcases List.mem_append.mp member with earlier | final
    · exact (List.pairwise_append.mp ascending).2.2 offset earlier _ (by simp)
    · exact Int.le_of_eq (List.mem_singleton.mp final)

/-- Offsets that cut a list that 64 bits count have steps that fit 64 bits. -/
theorem Cuts.stepsFit {length : Nat} {offsets : List Int} (cuts : Cuts length offsets)
    (short : length < 0x8000000000000000) : StepsFit offsets := by
  have bounds := cuts.bounds
  refine (List.Pairwise.imp_of_mem ?_ cuts.ascending).isChain
  intro start stop startMember stopMember ordered
  have startBounds := bounds start startMember
  have stopBounds := bounds stop stopMember
  omega

/-! ### Offsets of given parts -/

theorem offsetsFrom_ne_nil (start : Int) (lengths : List Nat) : offsetsFrom start lengths ≠ [] := by
  cases lengths <;> simp [offsetsFrom]

theorem length_offsetsFrom (start : Int) (lengths : List Nat) :
    (offsetsFrom start lengths).length = lengths.length + 1 := by
  induction lengths generalizing start with
  | nil => rfl
  | cons length rest inductionHypothesis => simp [offsetsFrom, inductionHypothesis]

theorem head?_offsetsFrom (start : Int) (lengths : List Nat) :
    (offsetsFrom start lengths).head? = some start := by
  cases lengths <;> rfl

theorem getLast?_offsetsFrom (start : Int) (lengths : List Nat) :
    (offsetsFrom start lengths).getLast? = some (start + lengths.sum) := by
  induction lengths generalizing start with
  | nil => simp [offsetsFrom]
  | cons length rest inductionHypothesis =>
      rw [offsetsFrom, List.getLast?_cons_of_ne_nil (offsetsFrom_ne_nil _ rest),
        inductionHypothesis, List.sum_cons]
      push_cast
      rw [Int.add_assoc]

theorem le_of_mem_offsetsFrom {start : Int} {lengths : List Nat} {offset : Int}
    (member : offset ∈ offsetsFrom start lengths) : start ≤ offset := by
  induction lengths generalizing start with
  | nil => simp [offsetsFrom] at member; omega
  | cons length rest inductionHypothesis =>
      rcases List.mem_cons.mp member with rfl | later
      · exact Int.le_refl _
      · have further := inductionHypothesis later
        omega

theorem pairwise_offsetsFrom (start : Int) (lengths : List Nat) :
    (offsetsFrom start lengths).Pairwise (· ≤ ·) := by
  induction lengths generalizing start with
  | nil => simp [offsetsFrom]
  | cons length rest inductionHypothesis =>
      refine List.pairwise_cons.mpr ⟨fun offset member => ?_, inductionHypothesis _⟩
      have further := le_of_mem_offsetsFrom member
      omega

/-- The offsets of parts cut their concatenation. -/
theorem cuts_offsetsFrom (parts : List (List β)) :
    Cuts parts.flatten.length (offsetsFrom 0 (parts.map List.length)) where
  first := head?_offsetsFrom 0 _
  ascending := pairwise_offsetsFrom 0 _
  last := by rw [getLast?_offsetsFrom, Int.zero_add, List.length_flatten]

theorem slice_append (front part back : List Int) :
    slice (front ++ (part ++ back)) front.length ((front.length : Int) + part.length) = part := by
  have stop : ((front.length : Int) + part.length).toNat = (front ++ part).length := by
    rw [List.length_append]
    omega
  have inside : ((front.length : Int) + part.length) ≤ (front ++ (part ++ back)).length := by
    simp only [List.length_append]
    omega
  unfold slice
  simp only []
  rw [sliceBound_of_natural (by omega) inside, sliceBound_of_natural (by omega) (by omega), stop,
    ← List.append_assoc, List.take_left, Int.toNat_natCast, List.drop_left]

theorem referenceLists_offsetsFrom_cons (references : List Int) (start : Int) (length : Nat)
    (rest : List Nat) :
    referenceLists references (offsetsFrom start (length :: rest)) =
      slice references start (start + length) ::
        referenceLists references (offsetsFrom (start + length) rest) := by
  cases rest <;> rfl

/-- The offsets of parts cut their concatenation into these parts. -/
theorem referenceLists_offsetsFrom (front : List Int) (parts : List (List Int)) :
    referenceLists (front ++ parts.flatten) (offsetsFrom front.length (parts.map List.length)) =
      parts := by
  induction parts generalizing front with
  | nil => rfl
  | cons part rest inductionHypothesis =>
      have later := inductionHypothesis (front ++ part)
      rw [List.append_assoc, List.length_append] at later
      rw [List.flatten_cons, List.map_cons, referenceLists_offsetsFrom_cons, slice_append,
        ← Int.natCast_add, later]

end Regrid.GridTables
