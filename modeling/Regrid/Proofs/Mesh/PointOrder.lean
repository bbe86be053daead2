import Mathlib.Data.Prod.Lex
import Regrid.Proofs.Mesh.Arrangement
import Regrid.Proofs.Scalar.Order

/-!
Contract: points whose coordinates equal themselves are in lexicographic order.

Owns:
- the place of a point, by which one point comes before another;
- that sorted items ascend, and that items at one place keep their order;
- the only list that items at different points can be sorted to.

Does not own: points with a coordinate that equals nothing, which have no place.
-/

namespace Regrid.PointOrder

open Scalar

variable {α ι : Type} [Scalar α] [Ordered α] {point : ι → α × α} {items : List ι}

/-! ### Places -/

/-- The place of a point, by its first coordinate and then by its second one. -/
def rank (point : α × α) : Lex (Ordered.Rank α × Ordered.Rank α) :=
  toLex (Ordered.rank point.1, Ordered.rank point.2)

/-- Two points have equal coordinates. -/
def coincide (first second : α × α) : Bool :=
  equal first.1 second.1 && equal first.2 second.2

omit [Ordered α] in
theorem isPlaceable_iff (place : α × α) :
    isPlaceable place = true ↔ equal place.1 place.1 = true ∧ equal place.2 place.2 = true := by
  rw [isPlaceable, Bool.and_eq_true]

theorem precedes_iff {first second : α × α} (firstPlaced : isPlaceable first = true)
    (secondPlaced : isPlaceable second = true) :
    precedes first second = true ↔ rank first < rank second := by
  obtain ⟨firstLeft, firstRight⟩ := (isPlaceable_iff first).mp firstPlaced
  obtain ⟨secondLeft, secondRight⟩ := (isPlaceable_iff second).mp secondPlaced
  have level := Ordered.equal_iff firstLeft secondLeft
  rw [rank, rank, Prod.Lex.toLex_lt_toLex, ← level, ← Ordered.below_iff firstLeft secondLeft,
    ← Ordered.below_iff firstRight secondRight, precedes]
  cases equality : equal first.1 second.1 with
  | true =>
      have apart : ¬ below first.1 second.1 = true := by
        rw [Ordered.below_iff firstLeft secondLeft, level.mp equality]
        exact lt_irrefl _
      simp [apart]
  | false => simp

theorem coincide_iff {first second : α × α} (firstPlaced : isPlaceable first = true)
    (secondPlaced : isPlaceable second = true) :
    coincide first second = true ↔ rank first = rank second := by
  obtain ⟨firstLeft, firstRight⟩ := (isPlaceable_iff first).mp firstPlaced
  obtain ⟨secondLeft, secondRight⟩ := (isPlaceable_iff second).mp secondPlaced
  rw [coincide, Bool.and_eq_true, Ordered.equal_iff firstLeft secondLeft,
    Ordered.equal_iff firstRight secondRight, rank, rank, toLex_inj, Prod.mk.injEq]

/-! ### Sorted items -/

theorem sort_eq_mergeSort (placed : ∀ item ∈ items, isPlaceable (point item) = true) :
    sort point items =
      items.mergeSort fun first second => decide (rank (point first) ≤ rank (point second)) := by
  have agree : ∀ first ∈ items, ∀ second ∈ items,
      (!precedes (point second) (point first)) =
        decide (rank (point first) ≤ rank (point second)) := by
    intro first member second other
    rw [Bool.eq_iff_iff, Bool.not_eq_true', ← Bool.not_eq_true,
      precedes_iff (placed second other) (placed first member), not_lt, decide_eq_true_iff]
  have same : (items.mergeSort fun first second => !precedes (point second) (point first)).map id =
      (items.map id).mergeSort fun first second =>
        decide (rank (point first) ≤ rank (point second)) := List.map_mergeSort agree
  rw [List.map_id, List.map_id] at same
  rw [sort, if_pos (List.all_eq_true.mpr placed), same]

private theorem le_trans_decide (point : ι → α × α) (first second third : ι)
    (below : decide (rank (point first) ≤ rank (point second)) = true)
    (above : decide (rank (point second) ≤ rank (point third)) = true) :
    decide (rank (point first) ≤ rank (point third)) = true :=
  decide_eq_true ((of_decide_eq_true below).trans (of_decide_eq_true above))

private theorem le_total_decide (point : ι → α × α) (first second : ι) :
    (decide (rank (point first) ≤ rank (point second)) ||
      decide (rank (point second) ≤ rank (point first))) = true := by
  simpa only [Bool.or_eq_true, decide_eq_true_iff] using
    le_total (rank (point first)) (rank (point second))

/-- Sorted items ascend by their places. -/
theorem sort_ascending (placed : ∀ item ∈ items, isPlaceable (point item) = true) :
    (sort point items).Pairwise fun first second => rank (point first) ≤ rank (point second) := by
  rw [sort_eq_mergeSort placed]
  exact (List.pairwise_mergeSort (le_trans_decide point) (le_total_decide point) items).imp
    of_decide_eq_true

/-- Items that ascend already stay as they are. -/
theorem sort_of_ascending (placed : ∀ item ∈ items, isPlaceable (point item) = true)
    (ascending : items.Pairwise fun first second => rank (point first) ≤ rank (point second)) :
    sort point items = items := by
  rw [sort_eq_mergeSort placed]
  exact List.mergeSort_of_pairwise (ascending.imp decide_eq_true)

theorem sort_sort (placed : ∀ item ∈ items, isPlaceable (point item) = true) :
    sort point (sort point items) = sort point items := by
  refine sort_of_ascending (fun item member => ?_) (sort_ascending placed)
  exact placed item ((sort_perm point items).mem_iff.mp member)

/-- Items whose places do not descend keep their order. -/
theorem pair_sublist_sort (placed : ∀ item ∈ items, isPlaceable (point item) = true)
    {first second : ι} (level : rank (point first) ≤ rank (point second))
    (before : [first, second].Sublist items) : [first, second].Sublist (sort point items) := by
  rw [sort_eq_mergeSort placed]
  exact List.pair_sublist_mergeSort (le_trans_decide point) (le_total_decide point)
    (decide_eq_true level) before

/-- Items are sorted to the one arrangement in which their places ascend strictly, if there is
one. -/
theorem sort_eq_of_strict (placed : ∀ item ∈ items, isPlaceable (point item) = true)
    (arranged : List ι) (perm : arranged.Perm items)
    (strict : arranged.Pairwise fun first second => rank (point first) < rank (point second)) :
    sort point items = arranged := by
  have distinct : (arranged.map fun item => rank (point item)).Nodup :=
    List.pairwise_map.mpr (strict.imp ne_of_lt)
  have sorted : (sort point items).Perm arranged := (sort_perm point items).trans perm.symm
  refine sorted.eq_of_pairwise (fun first second member other below above => ?_)
    (sort_ascending placed) (strict.imp le_of_lt)
  exact List.inj_on_of_nodup_map distinct (sorted.mem_iff.mp member) other
    (le_antisymm below above)

/-! ### Ties -/

omit [Scalar α] [Ordered α] in
/-- Two different items of a list come in one order or in the other. -/
theorem pair_sublist_or {first second : ι} (member : first ∈ items) (other : second ∈ items)
    (different : first ≠ second) :
    [first, second].Sublist items ∨ [second, first].Sublist items := by
  induction items with
  | nil => cases member
  | cons item rest inductionHypothesis =>
      rcases List.mem_cons.mp member with rfl | later
      · have after := (List.mem_cons.mp other).resolve_left different.symm
        exact .inl ((List.singleton_sublist.mpr after).cons_cons first)
      · rcases List.mem_cons.mp other with rfl | otherLater
        · exact .inr ((List.singleton_sublist.mpr later).cons_cons second)
        · exact (inductionHypothesis later otherLater).imp (.cons item) (.cons item)

omit [Scalar α] [Ordered α] in
/-- Items of a list without repetition do not come in both orders. -/
theorem not_pair_sublist_swap (distinct : items.Nodup) {first second : ι}
    (forward : [first, second].Sublist items) : ¬ [second, first].Sublist items := by
  induction items with
  | nil => cases forward
  | cons item rest inductionHypothesis =>
      obtain ⟨new, restDistinct⟩ := List.nodup_cons.mp distinct
      intro backward
      cases forward with
      | cons _ forward =>
          cases backward with
          | cons _ backward => exact inductionHypothesis restDistinct forward backward
          | cons_cons _ _ => exact new (forward.subset (by simp))
      | cons_cons _ forward =>
          cases backward with
          | cons _ backward => exact new (backward.subset (by simp))
          | cons_cons _ _ => exact new (List.singleton_sublist.mp forward)

/-- Sorted items ascend, and those at one place come in the order in which they were given. -/
theorem sort_stable (placed : ∀ item ∈ items, isPlaceable (point item) = true)
    (distinct : items.Nodup) :
    (sort point items).Pairwise fun first second =>
      precedes (point first) (point second) = true ∨
        coincide (point first) (point second) = true ∧ [first, second].Sublist items := by
  have sorted := sort_perm point items
  have sortedDistinct : (sort point items).Nodup := sorted.nodup_iff.mpr distinct
  refine List.pairwise_of_forall_sublist fun {first second} pair => ?_
  have member := sorted.mem_iff.mp (pair.subset (List.mem_cons_self ..))
  have other := sorted.mem_iff.mp (pair.subset (List.mem_cons_of_mem _ (List.mem_cons_self ..)))
  have different : first ≠ second := sortedDistinct.forall_sublist pair
  rcases ((sort_ascending placed).forall_sublist pair).lt_or_eq with before | level
  · exact .inl ((precedes_iff (placed _ member) (placed _ other)).mpr before)
  · refine .inr ⟨(coincide_iff (placed _ member) (placed _ other)).mpr level, ?_⟩
    -- had the second one been given first, it would be first now
    refine (pair_sublist_or member other different).resolve_right fun swapped => ?_
    exact not_pair_sublist_swap sortedDistinct pair (pair_sublist_sort placed level.ge swapped)

/-! ### Items at different places -/

/-- Sorted items at different places ascend strictly. -/
theorem sort_strict (placed : ∀ item ∈ items, isPlaceable (point item) = true)
    (apart : items.Pairwise fun first second => coincide (point first) (point second) = false) :
    (sort point items).Pairwise fun first second => rank (point first) < rank (point second) := by
  have different : items.Pairwise fun first second => rank (point first) ≠ rank (point second) := by
    refine apart.imp_of_mem fun {first second} member other separate level => ?_
    rw [(coincide_iff (placed _ member) (placed _ other)).mpr level] at separate
    cases separate
  have sorted := ((sort_perm point items).pairwise_iff fun separate => Ne.symm separate).mpr
    different
  exact ((sort_ascending placed).and sorted).imp fun both => lt_of_le_of_ne both.1 both.2

/-- Items at different places are sorted to the same places as any others that cover these. -/
theorem map_rank_sort {κ : Type} {other : κ → α × α} {others : List κ}
    (placed : ∀ item ∈ items, isPlaceable (point item) = true)
    (otherPlaced : ∀ item ∈ others, isPlaceable (other item) = true)
    (apart : items.Pairwise fun first second => coincide (point first) (point second) = false)
    (otherApart : others.Pairwise fun first second => coincide (other first) (other second) = false)
    (covered : ∀ item ∈ items, ∃ partner ∈ others, coincide (point item) (other partner) = true)
    (covers : ∀ partner ∈ others, ∃ item ∈ items, coincide (point item) (other partner) = true) :
    (sort point items).map (fun item => rank (point item)) =
      (sort other others).map fun item => rank (other item) := by
  have strict := List.pairwise_map.mpr (sort_strict placed apart)
  have otherStrict := List.pairwise_map.mpr (sort_strict otherPlaced otherApart)
  have sorted := sort_perm point items
  have otherSorted := sort_perm other others
  have perm : ((sort point items).map fun item => rank (point item)).Perm
      ((sort other others).map fun item => rank (other item)) := by
    rw [List.perm_ext_iff_of_nodup (strict.imp ne_of_lt) (otherStrict.imp ne_of_lt)]
    intro place
    simp only [List.mem_map, sorted.mem_iff, otherSorted.mem_iff]
    constructor
    · rintro ⟨item, member, rfl⟩
      obtain ⟨partner, partnerMember, level⟩ := covered item member
      exact ⟨partner, partnerMember,
        ((coincide_iff (placed _ member) (otherPlaced _ partnerMember)).mp level).symm⟩
    · rintro ⟨partner, partnerMember, rfl⟩
      obtain ⟨item, member, level⟩ := covers partner partnerMember
      exact ⟨item, member, (coincide_iff (placed _ member) (otherPlaced _ partnerMember)).mp level⟩
  exact perm.eq_of_pairwise (fun _ _ _ _ below above => le_antisymm below above)
    (strict.imp le_of_lt) (otherStrict.imp le_of_lt)

/-! ### Rational points -/

theorem isPlaceable_rat (place : Rat × Rat) : isPlaceable place = true := by
  show (decide (_ = _) && decide (_ = _)) = true
  simp

/-- Rational points all have a place, so an arrangement in which each of them comes before the next
ones is the sorted one. -/
theorem sort_eq_of_perm {point : ι → Rat × Rat} (arranged : List ι) (perm : arranged.Perm items)
    (ascending : (arranged.map point).Pairwise fun first second => precedes first second) :
    sort point items = arranged := by
  refine sort_eq_of_strict (fun item _ => isPlaceable_rat (point item)) arranged perm ?_
  exact (List.pairwise_map.mp ascending).imp fun before =>
    (precedes_iff (isPlaceable_rat _) (isPlaceable_rat _)).mp before

end Regrid.PointOrder
