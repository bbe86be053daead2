import Regrid.Shared.Heap

/-!
Contract: what a reader of a heap sees after a change of one record.

Owns:
- the references behind which a heap holds a record;
- reading after replacing and after making a record;
- changes of many records at once, by their references.

Does not own: what is kept in a heap.
-/

namespace Regrid.Heap

variable {ι : Type}

theorem place_ne {ref other : Ref ι} (different : ref ≠ other) : ref.place ≠ other.place := by
  intro same
  exact different (by cases ref; cases other; simp_all)

/-- There is a record behind a reference. -/
def Holds (heap : Heap ι) (ref : Ref ι) : Prop := ref.place < heap.records.size

instance (heap : Heap ι) (ref : Ref ι) : Decidable (heap.Holds ref) :=
  inferInstanceAs (Decidable (_ < _))

@[simp]
theorem holds_set {heap : Heap ι} {ref other : Ref ι} {record : ι} :
    (heap.set ref record).Holds other ↔ heap.Holds other := by
  simp [Holds, set]

theorem set_set (heap : Heap ι) (ref : Ref ι) (first second : ι) :
    (heap.set ref first).set ref second = heap.set ref second := by
  simp only [set, mk.injEq]
  exact Array.setIfInBounds_setIfInBounds ..

theorem holds_make (heap : Heap ι) (record : ι) :
    (heap.make record).2.Holds (heap.make record).1 := by
  simp [Holds, make]

theorem Holds.make {heap : Heap ι} {ref : Ref ι} (held : heap.Holds ref) (record : ι) :
    (heap.make record).2.Holds ref := by
  simp only [Holds, Heap.make, Array.size_push] at held ⊢
  omega

/-- A new record that is replaced at once might have been made as its replacement. -/
theorem set_make (heap : Heap ι) (first second : ι) :
    (heap.make first).2.set (heap.make first).1 second = (heap.make second).2 := by
  simp only [set, make, mk.injEq]
  grind

/-- Where there is no record, none is replaced. -/
theorem set_of_not_holds {heap : Heap ι} {ref : Ref ι} (absent : ¬ heap.Holds ref) (record : ι) :
    heap.set ref record = heap := by
  unfold Holds at absent
  obtain ⟨records⟩ := heap
  simpa [set] using Array.setIfInBounds_eq_of_size_le (by simpa using absent)

variable [Inhabited ι]

theorem get_set_same {heap : Heap ι} {ref : Ref ι} (held : heap.Holds ref) (record : ι) :
    (heap.set ref record).get ref = record := by
  unfold Holds at held
  simp [get, set, Array.getD_eq_getD_getElem?, held]

theorem get_set_other {ref other : Ref ι} (different : other ≠ ref) (heap : Heap ι) (record : ι) :
    (heap.set ref record).get other = heap.get other := by
  have places := place_ne different.symm
  simp [get, set, Array.getD_eq_getD_getElem?, Array.getElem?_setIfInBounds_ne places]

/-- Behind a reference there is what was there or what was written. -/
theorem holds_get_set {P : ι → Prop} {heap : Heap ι} {ref other : Ref ι} {record : ι}
    (before : P (heap.get other)) (own : other = ref → P record) :
    P ((heap.set ref record).get other) := by
  by_cases same : other = ref
  · subst same
    by_cases held : heap.Holds other
    · rw [get_set_same held]
      exact own rfl
    · rw [set_of_not_holds held]
      exact before
  · rw [get_set_other same]
    exact before

/-- What holds of all records and of the blank one holds behind every reference. -/
theorem forall_get {P : ι → Prop} {heap : Heap ι} (blank : P default)
    (all : ∀ record ∈ heap.records, P record) (ref : Ref ι) : P (heap.get ref) := by
  rw [get, Array.getD_eq_getD_getElem?]
  cases found : heap.records[ref.place]? with
  | none => exact blank
  | some record => exact all record (Array.mem_of_getElem? found)

theorem set_get (heap : Heap ι) (ref : Ref ι) : heap.set ref (heap.get ref) = heap := by
  obtain ⟨records⟩ := heap
  simp only [set, get, mk.injEq, Array.getD_eq_getD_getElem?]
  apply Array.ext
  · simp
  · intro place _ inside
    rw [Array.getElem_setIfInBounds (by simpa using inside)]
    split
    next same => subst same; simp [inside]
    next => rfl

/-- A record that is replaced and then changed might have been replaced by the changed one. -/
theorem set_get_set (heap : Heap ι) (ref : Ref ι) (record : ι) (f : ι → ι) :
    (heap.set ref record).set ref (f ((heap.set ref record).get ref)) =
      heap.set ref (f record) := by
  by_cases held : heap.Holds ref
  · rw [get_set_same held, set_set]
  · rw [set_of_not_holds held, set_of_not_holds held, set_of_not_holds held]

theorem get_make_new (heap : Heap ι) (record : ι) :
    (heap.make record).2.get (heap.make record).1 = record := by
  simp [get, make]

theorem get_make_other {heap : Heap ι} {ref : Ref ι} {record : ι}
    (different : ref ≠ (heap.make record).1) : (heap.make record).2.get ref = heap.get ref := by
  have places : ref.place ≠ heap.records.size := place_ne different
  simp [get, make, Array.getD_eq_getD_getElem?, Array.getElem?_push, places]

theorem holds_get_make {P : ι → Prop} {heap : Heap ι} {other : Ref ι} {record : ι}
    (before : P (heap.get other)) (own : P record) : P ((heap.make record).2.get other) := by
  by_cases new : other = (heap.make record).1
  · rw [new, get_make_new]
    exact own
  · rw [get_make_other new]
    exact before

theorem get_make_held {heap : Heap ι} {ref : Ref ι} (held : heap.Holds ref) (record : ι) :
    (heap.make record).2.get ref = heap.get ref := by
  unfold Holds at held
  simp only [get, make, Array.getD_eq_getD_getElem?]
  rw [Array.getElem?_push_lt held, Array.getElem?_eq_getElem held]

/-! ### Many records at once -/

/-- Heaps of one size that show the same records are the same. -/
theorem ext_get {first second : Heap ι} (size : first.records.size = second.records.size)
    (same : ∀ ref, first.Holds ref → first.get ref = second.get ref) : first = second := by
  obtain ⟨records⟩ := first
  obtain ⟨others⟩ := second
  congr 1
  refine Array.ext size fun place bound otherBound => ?_
  have shown := same ⟨place⟩ bound
  simpa [get, Array.getD_eq_getD_getElem?, bound, otherBound] using shown

/-- Heaps that hold the same references and show the same records are the same. -/
theorem eq_of_holds {first second : Heap ι} (held : ∀ ref, first.Holds ref ↔ second.Holds ref)
    (same : ∀ ref, first.get ref = second.get ref) : first = second := by
  have below : ∀ place, place < first.records.size ↔ place < second.records.size :=
    fun place => held ⟨place⟩
  have size : first.records.size = second.records.size := by
    have one := below first.records.size
    have other := below second.records.size
    omega
  exact ext_get size fun ref _ => same ref

omit [Inhabited ι] in
/-- The heap with every record replaced, by its reference. -/
def adjust (f : Ref ι → ι → ι) (heap : Heap ι) : Heap ι :=
  ⟨heap.records.mapIdx fun place record => f ⟨place⟩ record⟩

omit [Inhabited ι] in
theorem size_adjust (f : Ref ι → ι → ι) (heap : Heap ι) :
    (heap.adjust f).records.size = heap.records.size := by
  simp [adjust]

omit [Inhabited ι] in
@[simp]
theorem holds_adjust {f : Ref ι → ι → ι} {heap : Heap ι} {ref : Ref ι} :
    (heap.adjust f).Holds ref ↔ heap.Holds ref := by
  rw [Holds, size_adjust, Holds]

theorem get_adjust {heap : Heap ι} {ref : Ref ι} (held : heap.Holds ref) (f : Ref ι → ι → ι) :
    (heap.adjust f).get ref = f ref (heap.get ref) := by
  unfold Holds at held
  simp [get, adjust, Array.getD_eq_getD_getElem?, held]

/-- Behind a reference there is what was there or what it was changed into. -/
theorem holds_get_adjust {P : ι → Prop} {heap : Heap ι} {ref : Ref ι} {f : Ref ι → ι → ι}
    (before : P (heap.get ref)) (own : P (f ref (heap.get ref))) : P ((heap.adjust f).get ref) := by
  by_cases held : heap.Holds ref
  · rw [get_adjust held]
    exact own
  · have outside : (heap.adjust f).get ref = heap.get ref := by
      unfold Holds at held
      simp [get, adjust, Array.getD_eq_getD_getElem?, held]
    rw [outside]
    exact before

theorem get_adjust_of_same {heap : Heap ι} {ref : Ref ι} {f : Ref ι → ι → ι}
    (same : f ref (heap.get ref) = heap.get ref) : (heap.adjust f).get ref = heap.get ref :=
  holds_get_adjust (P := (· = heap.get ref)) rfl same

theorem adjust_congr {heap : Heap ι} {f g : Ref ι → ι → ι}
    (agree : ∀ ref, heap.Holds ref → f ref (heap.get ref) = g ref (heap.get ref)) :
    heap.adjust f = heap.adjust g := by
  refine ext_get (by simp only [size_adjust]) fun ref held => ?_
  rw [holds_adjust] at held
  rw [get_adjust held, get_adjust held, agree ref held]

theorem adjust_same {heap : Heap ι} {f : Ref ι → ι → ι}
    (same : ∀ ref, f ref (heap.get ref) = heap.get ref) : heap.adjust f = heap :=
  ext_get (size_adjust f heap) fun ref _ => get_adjust_of_same (same ref)

theorem adjust_adjust (f g : Ref ι → ι → ι) (heap : Heap ι) :
    (heap.adjust f).adjust g = heap.adjust fun ref record => g ref (f ref record) := by
  refine ext_get (by simp only [size_adjust]) fun ref held => ?_
  rw [holds_adjust, holds_adjust] at held
  rw [get_adjust (holds_adjust.mpr held), get_adjust held, get_adjust held]

/-- Replacing one record is a change of all records that leaves the others alone. -/
theorem set_eq_adjust (heap : Heap ι) (ref : Ref ι) (record : ι) :
    heap.set ref record = heap.adjust fun other old => if other = ref then record else old := by
  refine ext_get ?_ fun other held => ?_
  · rw [size_adjust]
    simp [set]
  · rw [holds_set] at held
    rw [get_adjust held]
    by_cases same : other = ref
    · subst same
      rw [if_pos rfl, get_set_same held]
    · rw [if_neg same, get_set_other same]

theorem adjust_set (f : Ref ι → ι → ι) (heap : Heap ι) (ref : Ref ι) (record : ι) :
    (heap.adjust f).set ref record =
      heap.adjust fun other old => if other = ref then record else f other old := by
  rw [set_eq_adjust, adjust_adjust]

/-- Records that are changed one after the other are changed at once. -/
theorem adjust_mem_set {refs : List (Ref ι)} {f : Ref ι → ι → ι} (heap : Heap ι) (ref : Ref ι) :
    (heap.adjust fun other old => if other ∈ refs then f other old else old).set ref
        (f ref (heap.get ref)) =
      heap.adjust fun other old => if other ∈ refs ++ [ref] then f other old else old := by
  rw [adjust_set]
  refine adjust_congr fun other _ => ?_
  by_cases here : other = ref
  · subst here
    rw [if_pos rfl, if_pos (by simp)]
  · rw [if_neg here]
    simp only [List.mem_append, List.mem_singleton, here, or_false]

end Regrid.Heap
