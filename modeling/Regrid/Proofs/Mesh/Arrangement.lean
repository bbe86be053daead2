import Mathlib.Algebra.BigOperators.Group.List.Basic
import Mathlib.Algebra.Order.Group.Multiset
import Mathlib.Tactic.Abel
import Regrid.Mesh.PointOrder

/-!
Contract: arranging items neither loses nor repeats one.

Owns:
- the items that a row, a merge and the pending runs hold, as multisets;
- one lemma for each step of the arrangement, none of which depends on what the test
  between two items answers.

Does not own: the order of the result, which exists only where the test is an order.
-/

namespace Regrid.Runs

variable {ι : Type}

/-- The items of a row without their order. -/
def bag (row : Array ι) : Multiset ι := (row.toList : Multiset ι)

@[simp]
theorem bag_empty : bag (#[] : Array ι) = 0 := rfl

@[simp]
theorem bag_append (first second : Array ι) : bag (first ++ second) = bag first + bag second := by
  simp [bag]

@[simp]
theorem bag_toArray (items : List ι) : bag items.toArray = (items : Multiset ι) := rfl

theorem bag_extract (row : Array ι) (middle : Nat) :
    bag (row.extract 0 middle) + bag (row.extract middle row.size) = bag row := by
  simp only [bag, Array.toList_extract, List.extract_eq_take_drop, List.drop_zero, Nat.sub_zero,
    Multiset.coe_add]
  rw [List.take_of_length_le (l := row.toList.drop middle) (by simp), List.take_append_drop]

/-! ### Runs and their filling -/

theorem splitRun_append (before : ι → ι → Bool) (items : List ι) :
    ((splitRun before items).1 : Multiset ι) + (splitRun before items).2 = items := by
  unfold splitRun
  split
  next first second rest =>
    split
    · rw [Multiset.coe_reverse, Multiset.coe_add, List.take_append_drop]
    · rw [Multiset.coe_add, List.take_append_drop]
  next => simp

theorem halve_le (inFront : ι → Bool) (row : Array ι) (low high : Nat) (ordered : low ≤ high) :
    halve inFront row low high ≤ high := by
  fun_induction halve inFront row low high with
  | case1 low high below middle item found isFront inductionHypothesis =>
      exact inductionHypothesis (by omega)
  | case2 low high below middle item found notFront inductionHypothesis =>
      exact (inductionHypothesis (by omega)).trans (by omega)
  | case3 => exact ordered
  | case4 => exact ordered

theorem bag_place (before : ι → ι → Bool) (row : Array ι) (item : ι) :
    bag (place before row item) = item ::ₘ bag row := by
  have inside := halve_le (fun other => !before item other) row 0 row.size (Nat.zero_le _)
  unfold place Array.insertIdxIfInBounds
  rw [dif_pos inside]
  simp only [bag, Array.toList_insertIdx, Multiset.cons_coe, Multiset.coe_eq_coe]
  exact List.perm_insertIdx item row.toList (by simpa using inside)

theorem bag_foldl_place (before : ι → ι → Bool) (items : List ι) (row : Array ι) :
    bag (items.foldl (place before) row) = bag row + items := by
  induction items generalizing row with
  | nil => simp
  | cons item rest inductionHypothesis =>
      rw [List.foldl_cons, inductionHypothesis, bag_place, ← Multiset.cons_coe]
      rw [Multiset.cons_add, Multiset.add_cons]

/-! ### Merging two runs -/

namespace Merge

/-- The items that a merge holds, placed or not. -/
def content (merge : Merge ι) : Multiset ι :=
  bag merge.left + bag merge.right + bag merge.placed

theorem bag_cut (fromEnd : Bool) (count : Nat) (row : Array ι) :
    bag (cut fromEnd count row).1 + bag (cut fromEnd count row).2 = bag row := by
  unfold cut
  cases fromEnd
  · exact bag_extract row count
  · exact (add_comm _ _).trans (bag_extract row (row.size - count))

theorem content_settle (merge : Merge ι) (items : Array ι) :
    (merge.settle items).content = bag items + merge.content := by
  unfold settle content
  cases merge.fromEnd <;> simp only [Bool.false_eq_true, if_true, if_false, bag_append] <;> abel

theorem content_takeLeft (merge : Merge ι) (count : Nat) :
    (merge.takeLeft count).content = merge.content := by
  change (settle { merge with left := (cut merge.fromEnd count merge.left).2 }
    (cut merge.fromEnd count merge.left).1).content = _
  rw [content_settle]
  simp only [content, ← bag_cut merge.fromEnd count merge.left]
  abel

theorem content_takeRight (merge : Merge ι) (count : Nat) :
    (merge.takeRight count).content = merge.content := by
  change (settle { merge with right := (cut merge.fromEnd count merge.right).2 }
    (cut merge.fromEnd count merge.right).1).content = _
  rw [content_settle]
  simp only [content, ← bag_cut merge.fromEnd count merge.right]
  abel

theorem bag_finish (merge : Merge ι) : bag merge.finish = merge.content := by
  unfold finish content
  cases merge.fromEnd <;> simp only [Bool.false_eq_true, if_true, if_false, bag_append] <;> abel

theorem content_singly (before : ι → ι → Bool) (limit fuel fromLeft fromRight : Nat)
    (merge : Merge ι) :
    (singly before limit fuel fromLeft fromRight merge).content = merge.content := by
  fun_induction singly before limit fuel fromLeft fromRight merge <;>
    simp_all +zetaDelta [content_takeLeft, content_takeRight]

theorem content_stretches (before : ι → ι → Bool) (fuel limit : Nat) (merge : Merge ι) :
    (stretches before fuel limit merge).1.content = merge.content := by
  fun_induction stretches before fuel limit merge <;>
    simp_all +zetaDelta [content_takeLeft, content_takeRight]

theorem bag_complete (before : ι → ι → Bool) (fuel limit : Nat) (merge : Merge ι) :
    bag (complete before fuel limit merge).1 = merge.content := by
  fun_induction complete before fuel limit merge with
  | case1 => exact bag_finish _
  | case2 => rw [bag_finish, content_singly]
  | case3 fuel limit merge size single begun after later stretched ended =>
      have same := content_stretches before size (limit + 1) single
      rw [stretched] at same
      rw [bag_finish, same, content_singly]
  | case4 fuel limit merge size single begun after later stretched unfinished inductionHypothesis =>
      have same := content_stretches before size (limit + 1) single
      rw [stretched] at same
      rw [inductionHypothesis, same, content_singly]

/-- A merge that has begun ends with the items that it holds. -/
theorem bag_finishOrComplete (before : ι → ι → Bool) (fuel limit : Nat) (merge : Merge ι) :
    bag (if merge.isOver then (merge.finish, limit) else merge.complete before fuel limit).1 =
      merge.content := by
  split
  · exact bag_finish merge
  · exact bag_complete before fuel limit merge

end Merge

theorem bag_merge (before : ι → ι → Bool) (limit : Nat) (left right : Array ι) :
    bag (merge before limit left right).1 = bag left + bag right := by
  unfold merge
  split
  next empty =>
    have none : right = #[] := by simpa using empty
    simp [none]
  next second found =>
    simp only
    split
    next => simp
    next first last =>
      split
      next => simp
      next =>
        generalize seek (fun item => !before second item) left 0 = kept
        generalize seek (fun item => before item first) right (right.size - 1) = moved
        generalize decide (moved < (left.extract kept).size) = fromEnd
        simp only [bag_append, Merge.bag_finishOrComplete, apply_ite Merge.content,
          Merge.content_takeLeft, Merge.content_takeRight, ite_self]
        rw [← bag_extract left kept, ← bag_extract right moved]
        simp only [Merge.content, bag_empty, add_zero]
        abel

/-! ### Pending runs -/

def contents (runs : List (Run ι)) : Multiset ι := (runs.map fun run => bag run.items).sum

@[simp]
theorem contents_nil : contents ([] : List (Run ι)) = 0 := rfl

@[simp]
theorem contents_cons (run : Run ι) (runs : List (Run ι)) :
    contents (run :: runs) = bag run.items + contents runs := by
  simp [contents]

namespace Pending

theorem contents_mergeDeeper (before : ι → ι → Bool) (depth fuel : Nat) (pending : Pending ι) :
    contents (mergeDeeper before depth fuel pending).runs = contents pending.runs := by
  fun_induction mergeDeeper before depth fuel pending with
  | case1 => rfl
  | case2 fuel pending last previous rest shape deeper items limit merged inductionHypothesis =>
      have same := bag_merge before pending.limit previous.items last.items
      rw [merged] at same
      rw [inductionHypothesis, shape]
      simp only [contents_cons, same]
      abel
  | case3 fuel pending last previous rest shape shallow => simp [shape]
  | case4 fuel pending last shape => simp [shape]
  | case5 => rfl

theorem contents_push (before : ι → ι → Bool) (total : Nat) (run : Run ι)
    (pending : Pending ι) :
    contents (pending.push before total run).runs = bag run.items + contents pending.runs := by
  unfold push
  split
  next none => simp [none]
  next last rest shape => simp only [contents_cons, contents_mergeDeeper]

private theorem bag_foldl_append (rows : List (Array ι)) (front : Array ι) :
    bag (rows.foldl (· ++ ·) front) = bag front + (rows.map bag).sum := by
  induction rows generalizing front with
  | nil => simp
  | cons row rest inductionHypothesis =>
      rw [List.foldl_cons, inductionHypothesis, bag_append, List.map_cons, List.sum_cons,
        add_assoc]

theorem bag_collapse (before : ι → ι → Bool) (fuel : Nat) (pending : Pending ι) :
    bag (pending.collapse before fuel) = contents pending.runs := by
  fun_induction collapse before fuel pending with
  | case1 pending =>
      rw [bag_foldl_append, bag_empty, zero_add, List.map_map, contents]
      exact ((List.reverse_perm pending.runs).map _).sum_eq
  | case2 fuel pending shape => simp [shape]
  | case3 fuel pending run shape => simp [shape]
  | case4 fuel pending join last middle first rest shape shorter run limit joined
      inductionHypothesis =>
      have same := bag_merge before pending.limit first.items middle.items
      rw [show run = (join first middle).1 by rw [joined]] at inductionHypothesis ⊢
      rw [inductionHypothesis, shape]
      simp only [contents_cons, join, same]
      abel
  | case5 fuel pending join last middle first rest shape longer run limit joined
      inductionHypothesis =>
      have same := bag_merge before pending.limit middle.items last.items
      rw [show run = (join middle last).1 by rw [joined]] at inductionHypothesis ⊢
      rw [inductionHypothesis, shape]
      simp only [contents_cons, join, same]
      abel
  | case6 fuel pending join last first shape =>
      simp only [join, bag_merge, shape, contents_cons, contents_nil]
      abel

end Pending

/-! ### The whole arrangement -/

theorem bag_arrangeFrom (before : ι → ι → Bool) (total least fuel start : Nat)
    (pending : Pending ι) (items : List ι) :
    bag (arrangeFrom before total least fuel start pending items) =
      contents pending.runs + items := by
  induction fuel generalizing start pending items with
  | zero => simp [arrangeFrom, Pending.bag_collapse]
  | succ fuel inductionHypothesis =>
      unfold arrangeFrom
      split
      next none =>
        have empty : items = [] := by simpa using none
        simp [Pending.bag_collapse, empty]
      next =>
        have parts := splitRun_append before items
        generalize splitRun before items = cutOff at parts ⊢
        rcases cutOff with ⟨run, others⟩
        have filling : (others : Multiset ι) =
            others.take (least - run.length) + others.drop (least - run.length) := by
          rw [Multiset.coe_add, List.take_append_drop]
        simp only [inductionHypothesis, Pending.contents_push, bag_foldl_place, bag_toArray,
          ← parts]
        rw [filling]
        abel

/-- The arrangement holds the items that it was given, whatever the test answers. -/
theorem arrange_perm (before : ι → ι → Bool) (items : List ι) :
    (arrange before items).Perm items := by
  rw [← Multiset.coe_eq_coe]
  have all := bag_arrangeFrom before items.length (leastLength items.length) items.length 0 {} items
  rw [contents_nil, zero_add] at all
  exact all

end Regrid.Runs

namespace Regrid.PointOrder

/-- Sorting by point neither loses nor repeats an item, also where some point has no place
in the order. -/
theorem sort_perm {α ι : Type} [Scalar α] (point : ι → α × α) (items : List ι) :
    (sort point items).Perm items := by
  unfold sort
  split
  · exact List.mergeSort_perm items _
  · exact Runs.arrange_perm _ items

end Regrid.PointOrder
