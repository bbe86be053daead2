import Regrid.Proofs.Attempt
import Regrid.Proofs.Sparse.Total
import Regrid.Proofs.Value
import Regrid.Scalar.Rational
import Regrid.Sparse.Accumulator

/-!
Contract: what an accumulator holds after areas were added to it.

Owns:
- that the sums at some indices are those of what was added there, in any arithmetic;
- the sums of an accumulator as the totals of what was added at each index, in exact arithmetic.

Does not own: where areas come from.
-/

namespace Regrid

/-! ### Entries under integers -/

namespace Value

variable {β : Type} {entries : List (Value × β)}

theorem lookupKeyed_putKeyed (entries : List (Value × β)) (index other : Int) (x : β) :
    lookupKeyed (int other) (putKeyed (int index) x entries) =
      if index = other then some x else lookupKeyed (int other) entries := by
  induction entries with
  | nil => by_cases same : index = other <;> simp [putKeyed, lookupKeyed, same_int, same]
  | cons entry rest inductionHypothesis =>
      simp only [lookupKeyed] at inductionHypothesis ⊢
      by_cases here : entry.1.same (int index) = true
      · by_cases same : index = other
        · simp [putKeyed, here, ← same]
        · have apart : ¬ entry.1.same (int other) = true :=
            fun found => same (eq_of_same_int here found)
          simp [putKeyed, here, apart, same]
      · by_cases found : entry.1.same (int other) = true
        · have apart : index ≠ other := fun same => here (same ▸ found)
          simp [putKeyed, here, found, apart]
        · simp [putKeyed, here, found, inductionHypothesis]

theorem integers_putKeyed (integers : ∀ entry ∈ entries, ∃ n, entry.1 = int n) (index : Int)
    (x : β) : ∀ entry ∈ putKeyed (int index) x entries, ∃ n, entry.1 = int n := by
  induction entries with
  | nil => simp [putKeyed]
  | cons entry rest inductionHypothesis =>
      have later := inductionHypothesis fun entry member => integers entry (by simp [member])
      have first := integers entry (by simp)
      unfold putKeyed
      split
      · intro other member
        rcases List.mem_cons.mp member with rfl | kept
        · exact first
        · exact integers other (by simp [kept])
      · intro other member
        rcases List.mem_cons.mp member with rfl | kept
        · exact first
        · exact later other kept

theorem putKeyed_of_new {key : Value} (new : ∀ entry ∈ entries, ¬ entry.1.same key = true)
    (x : β) : putKeyed key x entries = entries ++ [(key, x)] := by
  induction entries with
  | nil => rfl
  | cons entry rest inductionHypothesis =>
      have later := inductionHypothesis fun other member => new other (by simp [member])
      rw [putKeyed, if_neg (new entry (by simp)), later, List.cons_append]

/-- A key in use keeps its form, and no other key is touched. -/
theorem map_fst_putKeyed {key : Value} (known : ∃ entry ∈ entries, entry.1.same key = true)
    (x : β) : (putKeyed key x entries).map (·.1) = entries.map (·.1) := by
  induction entries with
  | nil => simp at known
  | cons entry rest inductionHypothesis =>
      by_cases here : entry.1.same key = true
      · rw [putKeyed, if_pos here, List.map_cons, List.map_cons]
      · have later : ∃ other ∈ rest, other.1.same key = true := by
          obtain ⟨other, member, same⟩ := known
          rcases List.mem_cons.mp member with rfl | inRest
          · exact absurd same here
          · exact ⟨other, inRest, same⟩
        rw [putKeyed, if_neg here, List.map_cons, List.map_cons, inductionHypothesis later]

theorem getElem?_putKeyed {key : Value} {place : Nat} {entry : Value × β}
    (found : entries[place]? = some entry) (other : ¬ entry.1.same key = true) (x : β) :
    (putKeyed key x entries)[place]? = some entry := by
  induction entries generalizing place with
  | nil => simp at found
  | cons first rest inductionHypothesis =>
      cases place with
      | zero =>
          obtain rfl : first = entry := by simpa using found
          rw [putKeyed, if_neg other, List.getElem?_cons_zero]
      | succ place =>
          rw [List.getElem?_cons_succ] at found
          unfold putKeyed
          split
          · rw [List.getElem?_cons_succ, found]
          · rw [List.getElem?_cons_succ, inductionHypothesis found]

theorem nodup_putKeyed (distinct : (entries.map (·.1)).Nodup) (index : Int) (x : β) :
    ((putKeyed (int index) x entries).map (·.1)).Nodup := by
  by_cases known : ∃ entry ∈ entries, entry.1.same (int index) = true
  · rwa [map_fst_putKeyed known]
  · have new : ∀ entry ∈ entries, ¬ entry.1.same (int index) = true :=
      fun entry member same => known ⟨entry, member, same⟩
    rw [putKeyed_of_new new, List.map_append]
    refine distinct.append (by simp) ?_
    intro key member equal
    obtain ⟨entry, entryMember, rfl⟩ := List.mem_map.mp member
    have own : entry.1 = int index := by simpa using equal
    apply new entry entryMember
    rw [own, same_int, decide_eq_true rfl]

theorem lookupKeyed_cons (n index : Int) (x : β) (rest : List (Value × β)) :
    lookupKeyed (int index) ((int n, x) :: rest) =
      if n = index then some x else lookupKeyed (int index) rest := by
  by_cases here : n = index <;> simp [lookupKeyed, same_int, here]

theorem lookupKeyed_filter (integers : ∀ entry ∈ entries, ∃ n, entry.1 = int n)
    (p : Int → Bool) (index : Int) :
    lookupKeyed (int index) (entries.filter fun entry => entry.1.passes p) =
      if p index then lookupKeyed (int index) entries else none := by
  induction entries with
  | nil => simp [lookupKeyed]
  | cons entry rest inductionHypothesis =>
      obtain ⟨known, old⟩ := entry
      obtain ⟨n, rfl⟩ := integers (known, old) (by simp)
      have later := inductionHypothesis fun entry member => integers entry (by simp [member])
      rw [List.filter_cons, passes_int, lookupKeyed_cons]
      by_cases kept : p n = true
      · rw [if_pos kept, lookupKeyed_cons, later]
        by_cases here : n = index
        · rw [if_pos here, if_pos here, ← here, if_pos kept]
        · rw [if_neg here, if_neg here]
      · rw [if_neg kept, later]
        by_cases here : n = index
        · rw [← here, if_neg kept, if_neg kept]
        · rw [if_neg here]

theorem putKeyed_filter (integers : ∀ entry ∈ entries, ∃ n, entry.1 = int n) (p : Int → Bool)
    (index : Int) (x : β) :
    (putKeyed (int index) x entries).filter (fun entry => entry.1.passes p) =
      if p index then putKeyed (int index) x (entries.filter fun entry => entry.1.passes p)
      else entries.filter fun entry => entry.1.passes p := by
  induction entries with
  | nil => by_cases kept : p index <;> simp [putKeyed, kept]
  | cons entry rest inductionHypothesis =>
      obtain ⟨known, old⟩ := entry
      obtain ⟨n, rfl⟩ := integers (known, old) (by simp)
      have later := inductionHypothesis fun entry member => integers entry (by simp [member])
      by_cases here : n = index
      · subst here
        by_cases kept : p n <;> simp [putKeyed, same_int, kept]
      · by_cases kept : p n <;> by_cases new : p index <;>
          simp [putKeyed, same_int, here, kept, new, later]

end Value

namespace Accumulator

open Attempt

/-- Adds the values of all entries at their rows. -/
def addAll {α : Type} [Scalar α] (accumulator : Accumulator α) (entries : List (Int × Int × α)) :
    Accumulator α :=
  entries.foldl (fun accumulator entry => accumulator.add entry.1 entry.2.2) accumulator

theorem addAll_append {α : Type} [Scalar α] (accumulator : Accumulator α)
    (first second : List (Int × Int × α)) :
    accumulator.addAll (first ++ second) = (accumulator.addAll first).addAll second :=
  List.foldl_append

section Restricted

variable {α : Type} {accumulator : Accumulator α}

/-- The indices are integers. -/
def Integral (accumulator : Accumulator α) : Prop :=
  ∀ entry ∈ accumulator.sums, ∃ n, entry.1 = .int n

theorem integral_empty : ({} : Accumulator α).Integral := by
  intro entry member
  cases member

/-- The sums whose index passes a test, in their order. -/
def restricted (p : Int → Bool) (accumulator : Accumulator α) : Accumulator α :=
  ⟨accumulator.sums.filter fun entry => entry.1.passes p⟩

theorem Integral.get?_restricted (integral : accumulator.Integral) (p : Int → Bool)
    (index : Int) : (accumulator.restricted p).get? index =
      if p index then accumulator.get? index else none :=
  Value.lookupKeyed_filter integral p index

variable [Scalar α]

theorem Integral.add (integral : accumulator.Integral) (index : Int) (x : α) :
    (accumulator.add index x).Integral :=
  Value.integers_putKeyed integral index _

theorem Integral.restricted_add (integral : accumulator.Integral) (p : Int → Bool) (index : Int)
    (x : α) : (accumulator.add index x).restricted p =
      if p index then (accumulator.restricted p).add index x else accumulator.restricted p := by
  have sums := Value.putKeyed_filter integral p index
    ((accumulator.get? index).getD Scalar.zero + x)
  rw [restricted, Accumulator.add, sums]
  by_cases kept : p index = true
  · rw [if_pos kept, if_pos kept, Accumulator.add, integral.get?_restricted, if_pos kept]
    rfl
  · rw [if_neg kept, if_neg kept]
    rfl

theorem Integral.addAll (integral : accumulator.Integral) (entries : List (Int × Int × α)) :
    (accumulator.addAll entries).Integral := by
  induction entries generalizing accumulator with
  | nil => exact integral
  | cons entry rest inductionHypothesis =>
      exact inductionHypothesis (integral.add entry.1 entry.2.2)

/-- The sums at some indices are those of the values that were added there. -/
theorem Integral.restricted_addAll (integral : accumulator.Integral) (p : Int → Bool)
    (entries : List (Int × Int × α)) :
    (accumulator.addAll entries).restricted p =
      (accumulator.restricted p).addAll (entries.filter fun entry => p entry.1) := by
  induction entries generalizing accumulator with
  | nil => rfl
  | cons entry rest inductionHypothesis =>
      have later := inductionHypothesis (integral.add entry.1 entry.2.2)
      rw [integral.restricted_add] at later
      rw [List.filter_cons]
      by_cases kept : p entry.1 = true
      · rw [if_pos kept] at later ⊢
        exact later
      · rw [if_neg kept] at later ⊢
        exact later

end Restricted

/-- The indices of an accumulator are integers, and it holds at each index the total of what was
added there, if anything was. -/
structure Sums (accumulator : Accumulator Rat) (added : List (Int × Int × Rat)) : Prop where
  integers : ∀ entry ∈ accumulator.sums, ∃ n, entry.1 = .int n
  held : ∀ index, accumulator.get? index =
    if index ∈ added.map (·.1) then some (rowWeight added index) else none

theorem sums_empty : Sums {} [] := ⟨by simp, fun _ => rfl⟩

variable {accumulator : Accumulator Rat} {added : List (Int × Int × Rat)}

/-- Where nothing was added, the total is that of nothing. -/
theorem Sums.getD_get? (sums : accumulator.Sums added) (index : Int) :
    (accumulator.get? index).getD Scalar.zero = rowWeight added index := by
  rw [sums.held]
  split
  · rfl
  next absent =>
    rw [rowWeight, rowTotal_of_not_mem]
    · rfl
    · exact fun other member same => absent (List.mem_map.mpr ⟨other, member, same⟩)

theorem Sums.add (sums : accumulator.Sums added) (entry : Int × Int × Rat) :
    (accumulator.add entry.1 entry.2.2).Sums (added ++ [entry]) := by
  refine ⟨Value.integers_putKeyed sums.integers _ _, fun index => ?_⟩
  rw [get?, Accumulator.add, Value.lookupKeyed_putKeyed, sums.getD_get?]
  have last : rowWeight [entry] index = if index = entry.1 then entry.2.2 else 0 := by
    rw [rowWeight, rowTotal_cons, one_mul]
    exact add_zero _
  simp only [List.map_append, List.mem_append, rowWeight_append, last]
  by_cases same : index = entry.1
  · subst same
    simp
  · have held := sums.held index
    rw [get?] at held
    have absent : index ∉ [entry].map (·.1) := by simpa using same
    simp only [if_neg same, if_neg (Ne.symm same), add_zero, held, absent, or_false]

/-- The values of several entries are added one after the other. -/
theorem Sums.addAll (sums : accumulator.Sums added) (entries : List (Int × Int × Rat)) :
    (accumulator.addAll entries).Sums (added ++ entries) := by
  induction entries generalizing accumulator added with
  | nil =>
      rw [List.append_nil]
      exact sums
  | cons entry rest inductionHypothesis =>
      have later := inductionHypothesis (sums.add entry)
      rw [List.append_assoc] at later
      exact later

/-- An accumulator holds at each index what it held before and the total of what was added
there. -/
theorem get?_addAll (accumulator : Accumulator Rat) (entries : List (Int × Int × Rat))
    (index : Int) : (accumulator.addAll entries).get? index =
      if index ∈ entries.map (·.1) then
        some ((accumulator.get? index).getD 0 + rowWeight entries index)
      else accumulator.get? index := by
  induction entries generalizing accumulator with
  | nil => rfl
  | cons entry rest inductionHypothesis =>
      have first : (accumulator.add entry.1 entry.2.2).get? index =
          if entry.1 = index then some ((accumulator.get? entry.1).getD 0 + entry.2.2)
          else accumulator.get? index := Value.lookupKeyed_putKeyed ..
      have later := inductionHypothesis (accumulator.add entry.1 entry.2.2)
      rw [first] at later
      have weight : rowWeight (entry :: rest) index =
          (if index = entry.1 then entry.2.2 else 0) + rowWeight rest index := by
        rw [rowWeight, rowTotal_cons, one_mul, rowWeight]
      have absent : index ∉ rest.map (·.1) → rowWeight rest index = 0 := fun none =>
        rowTotal_of_not_mem fun other member same => none (same ▸ List.mem_map_of_mem member)
      rw [weight]
      simp only [List.map_cons, List.mem_cons]
      refine later.trans ?_
      by_cases here : entry.1 = index
      · subst here
        by_cases again : entry.1 ∈ rest.map (·.1)
        · simp [again, add_assoc]
        · simp [again, absent again]
      · have apart : ¬ index = entry.1 := fun same => here same.symm
        simp only [here, apart, if_false, false_or, zero_add]

theorem Sums.get (sums : accumulator.Sums added) {index : Int} (member : index ∈ added.map (·.1)) :
    accumulator.get index = .ok (rowWeight added index) := by
  rw [Accumulator.get, sums.held, if_pos member]

end Accumulator

end Regrid
