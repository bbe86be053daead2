import Regrid.Proofs.Shared.Heap
import Regrid.Proofs.Sparse.Placement
import Regrid.Shared.AccumulatorSpace

/-!
Contract: a merge adds the sums that its source held when it began.

Owns:
- sums that stay at their place while other sums are added to;
- merges of a copy and merges that read the accumulator they change.

Does not own: totals, and which calls made an accumulator.

Each integer is the index of one sum only. So a merge of an accumulator with itself reads every sum
before it adds to it, and brings up no new index on the way.
-/

namespace Regrid

open Attempt

variable {α : Type} [Scalar α]

/-- Sums as the entries of one column, in which form they are added up. -/
def column (sums : List (Int × α)) : List (Int × Int × α) :=
  sums.map fun entry => (entry.1, 0, entry.2)

/-! ### Sums that are not added to -/

namespace Accumulator

variable {accumulator source : Accumulator α} {sums : List (Int × α)}

/-- Adding at known indices brings up no new ones. -/
theorem map_fst_addAll {entries : List (Int × Int × α)}
    (known : ∀ entry ∈ entries, .int entry.1 ∈ accumulator.sums.map (·.1)) :
    (accumulator.addAll entries).sums.map (·.1) = accumulator.sums.map (·.1) := by
  induction entries generalizing accumulator with
  | nil => rfl
  | cons entry rest inductionHypothesis =>
      obtain ⟨held, member, own⟩ := List.mem_map.mp (known entry (by simp))
      have same : held.1.same (.int entry.1) = true := by
        rw [own, Value.same_int, decide_eq_true rfl]
      have first : (accumulator.add entry.1 entry.2.2).sums.map (·.1) =
          accumulator.sums.map (·.1) := Value.map_fst_putKeyed ⟨held, member, same⟩ _
      have later : ∀ other ∈ rest,
          .int other.1 ∈ (accumulator.add entry.1 entry.2.2).sums.map (·.1) := by
        intro other inRest
        rw [first]
        exact known other (by simp [inRest])
      exact (inductionHypothesis later).trans first

/-- A sum stays at its place while nothing is added to it. -/
theorem getElem?_addAll {entries : List (Int × Int × α)} {place : Nat} {n : Int} {x : α}
    (found : accumulator.sums[place]? = some (.int n, x))
    (others : ∀ entry ∈ entries, entry.1 ≠ n) :
    (accumulator.addAll entries).sums[place]? = some (.int n, x) := by
  induction entries generalizing accumulator with
  | nil => exact found
  | cons entry rest inductionHypothesis =>
      have apart : ¬ (Value.int n).same (.int entry.1) = true := by
        rw [Value.same_int, decide_eq_true_eq]
        exact (others entry (by simp)).symm
      exact inductionHypothesis (Value.getElem?_putKeyed found apart _)
        fun other inRest => others other (by simp [inRest])

/-- While an accumulator is merged with itself, the sum whose turn comes next is still as it was. -/
theorem Lists.next_of_addAll {done rest : List (Int × α)} {entry : Int × α}
    (lists : source.Lists (done ++ entry :: rest)) :
    (source.addAll (column done)).sums[done.length]? = some (.int entry.1, entry.2) := by
  have distinct := lists.distinct
  rw [List.map_append, List.map_cons] at distinct
  apply getElem?_addAll
  · rw [lists.listed]
    simp
  · intro other member
    obtain ⟨sum, inDone, rfl⟩ := List.mem_map.mp member
    exact (List.nodup_append.mp distinct).2.2 _ (List.mem_map_of_mem inDone) _ (by simp)

theorem Lists.size_of_addAll {done rest : List (Int × α)}
    (lists : source.Lists (done ++ rest)) :
    (source.addAll (column done)).size = source.size := by
  have keys : (source.addAll (column done)).sums.map (·.1) = source.sums.map (·.1) := by
    apply map_fst_addAll
    intro entry member
    obtain ⟨sum, inDone, rfl⟩ := List.mem_map.mp member
    have held : (Value.int sum.1, sum.2) ∈ source.sums := by
      rw [lists.listed]
      exact List.mem_map_of_mem (f := fun entry : Int × α => (Value.int entry.1, entry.2))
        (List.mem_append_left rest inDone)
    exact List.mem_map_of_mem (f := (·.1)) held
  have same := congrArg List.length keys
  rwa [List.length_map, List.length_map] at same

/-- A merge of a copy adds its sums in their order. -/
theorem Lists.outcome_merge (lists : source.Lists sums) (accumulator : Accumulator α) :
    (merge source).outcome accumulator = (.ok (), accumulator.addAll (column sums)) := by
  rw [merge, lists.listed]
  generalize sums = rest
  induction rest generalizing accumulator with
  | nil => rfl
  | cons entry rest inductionHypothesis =>
      exact inductionHypothesis _

end Accumulator

namespace AccumulatorSpace

variable {space : AccumulatorSpace α} {target source : Ref (Accumulator α)} {sums : List (Int × α)}

/-- When its turn comes, a sum is read as it was when the merge began, also where the source is the
target and the sums before it have grown. -/
theorem outcome_addFrom {done rest : List (Int × α)} {entry : Int × α}
    (lists : (space.get source).Lists (done ++ entry :: rest)) :
    (addFrom target source done.length).outcome
        (space.set target ((space.get target).addAll (column done))) =
      (.ok (), space.set target ((space.get target).addAll (column (done ++ [entry])))) := by
  have next : ((space.set target ((space.get target).addAll (column done))).get
      source).sums[done.length]? = some (.int entry.1, entry.2) := by
    apply Heap.holds_get_set (P := fun accumulator : Accumulator α =>
      accumulator.sums[done.length]? = some (Value.int entry.1, entry.2))
    · rw [lists.listed]
      simp
    · rintro rfl
      exact lists.next_of_addAll
  rw [addFrom, outcome_bind_of_ok (outcome_get _), next]
  have grown : (space.get target).addAll (column (done ++ [entry])) =
      ((space.get target).addAll (column done)).add entry.1 entry.2 := by
    rw [column, List.map_append, Accumulator.addAll_append]
    rfl
  rw [grown]
  exact congrArg (Prod.mk (Except.ok ())) (Heap.set_get_set space target _ (·.add entry.1 entry.2))

theorem outcome_requireSize {done rest : List (Int × α)}
    (lists : (space.get source).Lists (done ++ rest)) :
    (requireSize source (space.get source).size).outcome
        (space.set target ((space.get target).addAll (column done))) =
      (.ok (), space.set target ((space.get target).addAll (column done))) := by
  have size : ((space.set target ((space.get target).addAll (column done))).get source).size =
      (space.get source).size := by
    apply Heap.holds_get_set (P := fun accumulator : Accumulator α =>
      accumulator.size = (space.get source).size)
    · rfl
    · rintro rfl
      exact lists.size_of_addAll
  rw [requireSize, outcome_bind_of_ok (outcome_get _), size, if_neg (not_not.mpr rfl)]
  rfl

/-- A merge reads what it may be changing, and still does what a merge of a copy does. -/
theorem outcome_merge (lists : (space.get source).Lists sums) :
    (merge target source).outcome space =
      (onAccumulator target (Accumulator.merge (space.get source))).outcome space := by
  have count : (space.get source).size = sums.length := by
    rw [Accumulator.size, lists.listed, List.length_map]
  -- After some turns the target is what it was and the sums that were read so far.
  have turns := outcome_forM_range
    (fun place => do addFrom target source place; requireSize source (space.get source).size) sums
    (fun done => space.set target ((space.get target).addAll (column done)))
    fun done entry rest split => by
      have parted : (space.get source).Lists (done ++ entry :: rest) := split ▸ lists
      have taken : (space.get source).Lists ((done ++ [entry]) ++ rest) := by
        rwa [← List.append_cons]
      refine (outcome_bind_of_ok (outcome_addFrom parted) _).trans ?_
      exact outcome_requireSize taken
  have start : space.set target ((space.get target).addAll (column [])) = space :=
    Heap.set_get space target
  rw [start, ← count] at turns
  rw [onAccumulator, outcome_within, lists.outcome_merge]
  exact turns

end AccumulatorSpace

end Regrid
