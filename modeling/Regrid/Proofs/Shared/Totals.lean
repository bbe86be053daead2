import Regrid.Proofs.Shared.Merging

/-!
Contract: accumulators hold the totals of what was added to them, and dense vectors have each total
at its own index exactly if no index is negative.

Owns:
- the books of what is added to accumulators, and their totals;
- calls on accumulators, and that all of them answer;
- the totals of the books as what is held after any run of calls.

Does not own: sums of doubles, which depend on the order of what is added.

A merge books in the target all that is booked in the source. So what it adds at an index is the
total that the source holds there at that moment, also where the source is the target.
-/

namespace Regrid

open Attempt

/-! ### Books -/

/-- What was added to an accumulator, in order. -/
abbrev Book := List (Int × Rat)

/-- What is held at an index after more was added there, if anything was. -/
def joined (held added : Option Rat) : Option Rat :=
  match added with
  | none => held
  | some x => some (held.getD 0 + x)

namespace Book

/-- The total of what was added at an index, if anything was. -/
def total? (book : Book) (index : Int) : Option Rat :=
  if index ∈ book.map (·.1) then some ((book.filter (·.1 = index)).map (·.2)).sum else none

theorem total?_of_not_mem {book : Book} {index : Int} (absent : index ∉ book.map (·.1)) :
    book.total? index = none := if_neg absent

theorem filter_of_not_mem {book : Book} {index : Int} (absent : index ∉ book.map (·.1)) :
    book.filter (·.1 = index) = [] := by
  rw [List.filter_eq_nil_iff]
  intro entry member own
  exact absent (List.mem_map.mpr ⟨entry, member, of_decide_eq_true own⟩)

theorem total?_append (first second : Book) (index : Int) :
    total? (first ++ second) index = joined (first.total? index) (second.total? index) := by
  unfold total?
  rw [List.map_append, List.filter_append, List.map_append, List.sum_append]
  by_cases early : index ∈ first.map (·.1) <;> by_cases late : index ∈ second.map (·.1)
  · simp [joined, early, late]
  · simp [joined, early, late, filter_of_not_mem late]
  · simp [joined, early, late, filter_of_not_mem early]
  · simp [joined, early, late]

theorem total?_single (n index : Int) (x : Rat) :
    total? [(n, x)] index = if n = index then some x else none := by
  by_cases here : n = index <;> simp [total?, here, eq_comm]

/-- Under different indices, a total is a single entry. -/
theorem total?_of_mem {book : Book} (distinct : (book.map (·.1)).Nodup) {index : Int} {x : Rat}
    (member : (index, x) ∈ book) : book.total? index = some x := by
  obtain ⟨early, late, rfl⟩ := List.append_of_mem member
  rw [List.map_append, List.map_cons, List.nodup_append, List.nodup_cons] at distinct
  obtain ⟨_, ⟨notLate, _⟩, apart⟩ := distinct
  have notEarly : index ∉ early.map (·.1) := fun inEarly => apart _ inEarly _ (by simp) rfl
  rw [total?_append, ← List.singleton_append, total?_append, total?_single, if_pos rfl,
    total?_of_not_mem notEarly, total?_of_not_mem notLate]
  simp [joined]

end Book

theorem rowWeight_column (book : Book) (index : Int) :
    rowWeight (column book) index = ((book.filter (·.1 = index)).map (·.2)).sum := by
  simp [rowWeight, rowTotal, entryTotal, column, List.filter_map, Function.comp_def]

/-! ### One accumulator -/

namespace Accumulator

variable {accumulator : Accumulator Rat} {book more sums : Book}

theorem get?_addAll_column (accumulator : Accumulator Rat) (book : Book) (index : Int) :
    (accumulator.addAll (column book)).get? index =
      joined (accumulator.get? index) (book.total? index) := by
  have indices : (column book).map (·.1) = book.map (·.1) := by simp [column]
  rw [get?_addAll, rowWeight_column, Book.total?, indices]
  by_cases booked : index ∈ book.map (·.1)
  · rw [if_pos booked, if_pos booked]
    rfl
  · rw [if_neg booked, if_neg booked]
    rfl

/-- The sums of an accumulator are a book of it. -/
theorem Lists.get?_eq (lists : accumulator.Lists sums) (index : Int) :
    accumulator.get? index = sums.total? index := by
  by_cases listed : index ∈ sums.map (·.1)
  · obtain ⟨⟨n, x⟩, member, rfl⟩ := List.mem_map.mp listed
    rw [Book.total?_of_mem lists.distinct member, lists.get?_eq_some_iff]
    exact member
  · rw [Book.total?_of_not_mem listed, Option.eq_none_iff_forall_ne_some]
    intro x held
    exact listed (List.mem_map_of_mem (lists.get?_eq_some_iff.mp held))

/-- An accumulator holds the totals of a book, each of them under one integer. -/
structure Keeps (accumulator : Accumulator Rat) (book : Book) : Prop where
  integral : accumulator.Integral
  distinct : (accumulator.sums.map (·.1)).Nodup
  held : ∀ index, accumulator.get? index = book.total? index

theorem keeps_empty : Keeps {} [] := ⟨integral_empty, List.nodup_nil, fun _ => rfl⟩

theorem Lists.keeps (lists : accumulator.Lists sums) : accumulator.Keeps sums where
  integral entry member := by
    rw [lists.listed] at member
    obtain ⟨sum, _, rfl⟩ := List.mem_map.mp member
    exact ⟨sum.1, rfl⟩
  distinct := by
    rw [lists.listed, List.map_map]
    have keys := lists.distinct.map (f := Value.int) fun _ _ same => Value.int.inj same
    rwa [List.map_map] at keys
  held := lists.get?_eq

theorem Keeps.exists_lists (keeps : accumulator.Keeps book) : ∃ sums, accumulator.Lists sums :=
  keeps.integral.exists_lists keeps.distinct

theorem Keeps.add (keeps : accumulator.Keeps book) (index : Int) (x : Rat) :
    (accumulator.add index x).Keeps (book ++ [(index, x)]) where
  integral := keeps.integral.add index x
  distinct := Value.nodup_putKeyed keeps.distinct index _
  held other := by
    rw [Book.total?_append, ← keeps.held]
    exact get?_addAll_column accumulator [(index, x)] other

theorem Keeps.addAll (keeps : accumulator.Keeps book) (more : Book) :
    (accumulator.addAll (column more)).Keeps (book ++ more) := by
  induction more generalizing accumulator book with
  | nil =>
      rw [List.append_nil]
      exact keeps
  | cons entry rest inductionHypothesis =>
      rw [List.append_cons]
      exact inductionHypothesis (keeps.add entry.1 entry.2)

/-- Only the totals of a book count. -/
theorem Keeps.congr (keeps : accumulator.Keeps book)
    (same : ∀ index, book.total? index = more.total? index) : accumulator.Keeps more :=
  ⟨keeps.integral, keeps.distinct, fun index => (keeps.held index).trans (same index)⟩

/-- Entries under new and different integers are kept in the order in which they are put. -/
theorem foldl_putKeyed {done rest : Book} (distinct : ((done ++ rest).map (·.1)).Nodup) :
    (rest.map fun entry => (Value.int entry.1, entry.2)).foldl
        (fun kept entry => Value.putKeyed entry.1 entry.2 kept)
        (done.map fun entry => (Value.int entry.1, entry.2)) =
      (done ++ rest).map fun entry => (Value.int entry.1, entry.2) := by
  induction rest generalizing done with
  | nil =>
      rw [List.append_nil]
      rfl
  | cons entry rest inductionHypothesis =>
      have new : ∀ other ∈ done.map fun entry => (Value.int entry.1, entry.2),
          ¬ other.1.same (.int entry.1) = true := by
        intro other member same
        obtain ⟨sum, inDone, rfl⟩ := List.mem_map.mp member
        rw [List.map_append, List.map_cons, List.nodup_append] at distinct
        rw [Value.same_int, decide_eq_true_eq] at same
        exact distinct.2.2 _ (List.mem_map_of_mem inDone) _ (by simp) same
      rw [List.append_cons] at distinct ⊢
      rw [← inductionHypothesis distinct, List.map_cons, List.foldl_cons,
        Value.putKeyed_of_new new, List.map_append]
      rfl

/-- Sums that are given at once under different integers are listed as they are given. -/
theorem exists_ofList (distinct : (book.map (·.1)).Nodup) : ∃ accumulator : Accumulator Rat,
    ofList (book.map fun entry => (.int entry.1, entry.2)) = .ok accumulator ∧
      accumulator.Lists book := by
  have keys : (book.map fun entry => (Value.int entry.1, entry.2)).all (·.1.isKey) = true := by
    simp [Value.isKey]
  have put : (book.map fun entry => (Value.int entry.1, entry.2)).foldl
      (fun kept entry => Value.putKeyed entry.1 entry.2 kept) [] =
        book.map fun entry => (Value.int entry.1, entry.2) := by
    rw [← List.nil_append book] at distinct
    exact foldl_putKeyed distinct
  refine ⟨⟨book.map fun entry => (.int entry.1, entry.2)⟩, ?_, rfl, distinct⟩
  rw [ofList, if_pos keys, put]

end Accumulator

namespace AccumulatorSpace

/-! ### Calls -/

/-- A call on accumulators. -/
inductive Call where
  | make (given : Book) (distinct : (given.map (·.1)).Nodup)
  | add (ref : Ref (Accumulator Rat)) (index : Int) (x : Rat)
  | merge (target source : Ref (Accumulator Rat))

/-- What a call does to the accumulators. -/
def Call.perform : Call → Attempt (AccumulatorSpace Rat) Unit
  | make given _ => do
      let accumulator ← Accumulator.ofList (given.map fun entry => (.int entry.1, entry.2))
      let _ ← makeAccumulator accumulator
  | add ref index x => onAccumulator ref (Accumulator.addAt (.int index) x)
  | merge target source => AccumulatorSpace.merge target source

/-- The books of all accumulators after a call. -/
def Call.enter (books : List Book) : Call → List Book
  | make given _ => books ++ [given]
  | add ref index x => books.modify ref.place (· ++ [(index, x)])
  | merge target source => books.modify target.place (· ++ books.getD source.place [])

/-- The accumulators after calls in a row. -/
def run (calls : List Call) : AccumulatorSpace Rat :=
  calls.foldl (fun space call => (call.perform.outcome space).2) {}

/-- What was added to each accumulator by calls in a row. -/
def books (calls : List Call) : List Book := calls.foldl Call.enter []

/-- A merge adds at each index of its target what its source held there, and leaves the other
accumulators alone. -/
structure Merged (before after : AccumulatorSpace Rat) (target source : Ref (Accumulator Rat)) :
    Prop where
  added : ∀ index, (after.get target).get? index =
    joined ((before.get target).get? index) ((before.get source).get? index)
  others : ∀ ref, ref ≠ target → after.get ref = before.get ref

/-- Every accumulator holds the totals of its book. -/
structure Follows (space : AccumulatorSpace Rat) (books : List Book) : Prop where
  size : space.records.size = books.length
  keeps : ∀ ref, (space.get ref).Keeps (books.getD ref.place [])

variable {space : AccumulatorSpace Rat} {books : List Book} {target source : Ref (Accumulator Rat)}
  {sums : Book}

theorem outcome_merge_of_lists (lists : (space.get source).Lists sums) :
    (merge target source).outcome space =
      (.ok (), space.set target ((space.get target).addAll (column sums))) := by
  rw [outcome_merge lists, onAccumulator, outcome_within, lists.outcome_merge]

theorem Follows.make (follows : space.Follows books) {accumulator : Accumulator Rat} {book : Book}
    (keeps : accumulator.Keeps book) : Follows (space.make accumulator).2 (books ++ [book]) where
  size := by simp [Heap.make, follows.size]
  keeps ref := by
    by_cases new : ref = (space.make accumulator).1
    · have last : ref.place = books.length := by
        rw [new, ← follows.size]
        rfl
      have entered : (books ++ [book]).getD ref.place [] = book := by
        simp [List.getD_eq_getElem?_getD, last]
      rw [entered, new, Heap.get_make_new]
      exact keeps
    · have places : ref.place ≠ books.length := by
        rw [← follows.size]
        exact Heap.place_ne new
      have kept : (books ++ [book]).getD ref.place [] = books.getD ref.place [] := by
        grind
      rw [Heap.get_make_other new, kept]
      exact follows.keeps ref

theorem Follows.set (follows : space.Follows books) {ref : Ref (Accumulator Rat)}
    {accumulator : Accumulator Rat} {more : Book}
    (keeps : accumulator.Keeps (books.getD ref.place [] ++ more)) :
    Follows (space.set ref accumulator) (books.modify ref.place (· ++ more)) where
  size := by simp [Heap.set, follows.size]
  keeps other := by
    by_cases same : other = ref
    · subst same
      by_cases held : space.Holds other
      · have inside : other.place < books.length := by rwa [← follows.size]
        have entered : (books.modify other.place (· ++ more)).getD other.place [] =
            books.getD other.place [] ++ more := by
          simp [List.getD_eq_getElem?_getD, inside]
        rw [Heap.get_set_same held, entered]
        exact keeps
      · -- Where there is no record there is no book, so nothing is replaced on either side.
        have outside : books.length ≤ other.place := by
          rwa [← follows.size, ← not_lt]
        rw [Heap.set_of_not_holds held, List.modify_eq_self outside]
        exact follows.keeps other
    · have kept : (books.modify ref.place (· ++ more)).getD other.place [] =
          books.getD other.place [] := by
        rw [List.getD_eq_getElem?_getD, List.getElem?_modify_ne _ _ (Heap.place_ne (Ne.symm same)),
          List.getD_eq_getElem?_getD]
      rw [Heap.get_set_other same, kept]
      exact follows.keeps other

theorem Follows.merge (follows : space.Follows books) (target source : Ref (Accumulator Rat)) :
    ∃ after, (AccumulatorSpace.merge target source).outcome space = (.ok (), after) ∧
      after.Follows (books.modify target.place (· ++ books.getD source.place [])) := by
  obtain ⟨sums, lists⟩ := (follows.keeps source).exists_lists
  refine ⟨_, outcome_merge_of_lists lists, follows.set ?_⟩
  -- What is added are the sums of the source, which have the totals of its book.
  apply ((follows.keeps target).addAll sums).congr
  intro index
  rw [Book.total?_append, Book.total?_append, ← lists.get?_eq, (follows.keeps source).held]

/-- Every call answers, and is entered into the books. -/
theorem Follows.perform (follows : space.Follows books) (call : Call) :
    ∃ after, call.perform.outcome space = (.ok (), after) ∧ after.Follows (call.enter books) := by
  cases call with
  | make given distinct =>
      obtain ⟨accumulator, done, lists⟩ := Accumulator.exists_ofList distinct
      refine ⟨_, ?_, follows.make lists.keeps⟩
      rw [Call.perform, done]
      rfl
  | add ref index x => exact ⟨_, rfl, follows.set ((follows.keeps ref).add index x)⟩
  | merge target source => exact follows.merge target source

theorem follows_empty : Follows {} [] := ⟨rfl, fun _ => Accumulator.keeps_empty⟩

/-- The accumulators follow the books through every run. -/
theorem follows_run (calls : List Call) : (run calls).Follows (AccumulatorSpace.books calls) := by
  have steps : ∀ {space : AccumulatorSpace Rat} {books : List Book}, space.Follows books →
      Follows (calls.foldl (fun space call => (call.perform.outcome space).2) space)
        (calls.foldl Call.enter books) := by
    induction calls with
    | nil => exact fun follows => follows
    | cons call rest inductionHypothesis =>
        intro space books follows
        obtain ⟨after, done, kept⟩ := follows.perform call
        rw [List.foldl_cons, List.foldl_cons, done]
        exact inductionHypothesis kept
  exact steps follows_empty

/-- What a merge adds is what its source holds, also where the source is the target. -/
theorem Follows.merged (follows : space.Follows books) (held : space.Holds target)
    (source : Ref (Accumulator Rat)) :
    Merged space ((AccumulatorSpace.merge target source).outcome space).2 target source := by
  obtain ⟨sums, lists⟩ := (follows.keeps source).exists_lists
  rw [outcome_merge_of_lists lists]
  constructor
  · intro index
    rw [Heap.get_set_same held, Accumulator.get?_addAll_column, lists.get?_eq]
  · intro ref different
    exact Heap.get_set_other different space _

/-- Whatever was added and merged, every further call answers, a merge adds what its source holds at
that moment, and every accumulator holds the totals of what was added to it. A vector of them has
all totals at their own indices, and `fill` elsewhere, exactly if no index is negative. -/
theorem totals_are_placed_iff_natural (calls : List Call) :
    (∀ call : Call, (call.perform.outcome (run calls)).1 = .ok ()) ∧
      (∀ target source, (run calls).Holds target →
        Merged (run calls) ((merge target source).outcome (run calls)).2 target source) ∧
      ∀ ref, (∀ index, ((run calls).get ref).get? index =
          ((AccumulatorSpace.books calls).getD ref.place []).total? index) ∧
        ((run calls).get ref).MakesVectors := by
  have follows := follows_run calls
  refine ⟨fun call => ?_, fun _ source held => follows.merged held source, fun ref => ?_⟩
  · obtain ⟨after, done, _⟩ := follows.perform call
    rw [done]
  · obtain ⟨sums, lists⟩ := (follows.keeps ref).exists_lists
    exact ⟨(follows.keeps ref).held, lists.makesVectors⟩

/-- Sums that are merged into others, which are then merged with themselves. -/
def doubledCalls : List Call :=
  [.make [(3, 1 / 2)] (by decide), .make [] (by decide), .add ⟨1⟩ 0 1, .merge ⟨1⟩ ⟨0⟩,
    .merge ⟨1⟩ ⟨1⟩]

/-- All that was added counts twice after the last merge, and stands at its index. -/
theorem doubled_totals_are_placed :
    Merged (run doubledCalls) ((merge ⟨1⟩ ⟨1⟩).outcome (run doubledCalls)).2 ⟨1⟩ ⟨1⟩ ∧
      ((run doubledCalls).get ⟨1⟩).get? 3 = some 1 ∧
      ((run doubledCalls).get ⟨1⟩).Places 4 0 [2, 0, 0, 1] := by
  obtain ⟨_, merged, each⟩ := totals_are_placed_iff_natural doubledCalls
  obtain ⟨totals, vectors⟩ := each ⟨1⟩
  have done : ((run doubledCalls).get ⟨1⟩).toDense 4 0 = .ok [2, 0, 0, 1] :=
    eq_ok_of_toOption (by decide +kernel)
  refine ⟨merged ⟨1⟩ ⟨1⟩ (by decide +kernel), (totals 3).trans (by decide +kernel),
    (vectors.own 4 0 _ done).mpr ?_⟩
  intro index x held
  have natural : ∀ n ∈ ((AccumulatorSpace.books doubledCalls).getD 1 []).map (·.1), 0 ≤ n := by
    decide +kernel
  by_contra negative
  have absent := Book.total?_of_not_mem fun member => negative (natural index member)
  cases absent.symm.trans ((totals index).symm.trans held)

/-- A sum at index 1, and one at the last place of every vector. -/
def backwardCalls : List Call := [.make [] (by decide), .add ⟨0⟩ 1 5, .add ⟨0⟩ (-1) 2]

/-- In a vector of two places the second sum takes the place of the first one. -/
theorem negative_index_takes_a_place :
    ¬ ∀ (calls : List Call) (ref : Ref (Accumulator Rat)) (length : Int) (fill : Rat)
        (vector : List Rat), ((run calls).get ref).toDense length fill = .ok vector →
        ((run calls).get ref).Places length fill vector := by
  intro claimed
  have done : ((run backwardCalls).get ⟨0⟩).toDense 2 0 = .ok [0, 2] :=
    eq_ok_of_toOption (by decide +kernel)
  have own := (claimed backwardCalls ⟨0⟩ 2 0 [0, 2] done).held 1 5 (by decide +kernel)
  exact absurd own.2 (by decide +kernel)

end AccumulatorSpace

end Regrid
