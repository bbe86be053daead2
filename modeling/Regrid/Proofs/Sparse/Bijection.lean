import Regrid.Proofs.Sparse.IndexSet
import Regrid.Proofs.Sparse.Vectors

/-!
Contract: an index set numbers its native indices one to one, whatever is called on it.

Owns:
- calls on one set and runs of them, refused calls included;
- dense numbers and native indices as inverse to each other, and numbers that never change;
- what a refused call leaves behind;
- vectors that are spread and gathered, back and forth.

Does not own: sets that are shared by builders and operators.

A vector over the native space is as long as the extent, however few indices the set holds. So a
dense vector is spread exactly if a vector of that length finds room. All other laws hold without a
condition.
-/

namespace Regrid.IndexSet

open Attempt

variable {set : IndexSet}

/-! ### Numbers -/

/-- Dense numbers below the dense extent and native indices of the set name each other. -/
structure OneToOne (set : IndexSet) : Prop where
  toDense : ∀ native ∈ set.natives, ∃ number < set.denseExtent, set.toDense native = .ok number
  toSparse : ∀ number < set.denseExtent, ∃ native ∈ set.natives, set.toSparse number = .ok native
  inverse : ∀ (native : Int) (number : Nat),
    set.toDense native = .ok number ↔ set.toSparse number = .ok native

theorem toSparse_eq_ok_iff {native : Int} {number : Nat} :
    set.toSparse number = .ok native ↔ set.natives[number]? = some native :=
  itemAt_natCast_eq_ok_iff

theorem toDense_eq_ok_iff (distinct : set.natives.Nodup) {native : Int} {number : Nat} :
    set.toDense native = .ok number ↔ set.natives[number]? = some native := by
  unfold toDense
  cases known : set.dense? native with
  | some own =>
      have found := getElem?_of_dense? known
      constructor
      · intro same
        rwa [← Except.ok.inj same]
      · intro also
        have inside := (List.getElem?_eq_some_iff.mp found).1
        rw [(List.getElem?_inj inside distinct).mp (found.trans also.symm)]
  | none =>
      refine ⟨nofun, fun found => ?_⟩
      exact absurd (List.mem_of_getElem? found) (not_mem_of_dense? known)

theorem Proper.oneToOne (proper : set.Proper) : set.OneToOne where
  toDense native member := by
    obtain ⟨number, inside, found⟩ := List.getElem_of_mem member
    exact ⟨number, inside, (toDense_eq_ok_iff proper.distinct).mpr
      (List.getElem?_eq_some_iff.mpr ⟨inside, found⟩)⟩
  toSparse number inside :=
    ⟨_, List.getElem_mem inside, toSparse_eq_ok_iff.mpr (List.getElem?_eq_getElem inside)⟩
  inverse native number := by rw [toDense_eq_ok_iff proper.distinct, toSparse_eq_ok_iff]

/-- A grown set has the old numbers for the old indices. -/
theorem Grows.toDense {grown : IndexSet} (grows : set.Grows grown) (before : set.natives.Nodup)
    (now : grown.natives.Nodup) {native : Int} {number : Nat}
    (known : set.toDense native = .ok number) : grown.toDense native = .ok number :=
  (toDense_eq_ok_iff now).mpr (grows.getElem? ((toDense_eq_ok_iff before).mp known))

/-! ### Calls -/

/-- A call that may change a set. -/
inductive Call where
  | add (native : Value)
  | addMany (natives : Value)
  | fixExtent (extent : Int)

/-- What a call does to the set. -/
def Call.perform : Call → Attempt IndexSet Unit
  | add native => do let _ ← addValue native
  | addMany natives => do let _ ← IndexSet.addMany natives
  | fixExtent extent => .ofFunction fun set => do return ((), ← set.fixExtent extent)

/-- What calls leave that are made one after the other, whether they are refused or not. -/
def after (set : IndexSet) : List Call → IndexSet
  | [] => set
  | call :: rest => (call.perform.outcome set).2.after rest

/-- A call leaves a grown set that is as good as before. -/
theorem Call.keeps (start : IndexSet) (call : Call) :
    call.perform.Preserves fun set => set.Proper ∧ start.Grows set := by
  cases call with
  | add native => exact preserves_bind (addValue_keeps start native) fun _ => preserves_pure _
  | addMany natives =>
      exact preserves_bind (addMany_keeps start natives) fun _ => preserves_pure _
  | fixExtent extent =>
      exact preserves_ofFunction fun _ _ _ ⟨proper, grows⟩ done => by
        obtain ⟨_, fixed, same⟩ := bind_eq_ok done
        cases same
        exact ⟨proper.fixExtent fixed, grows.trans (fixExtent_grows fixed)⟩

theorem Proper.after (proper : set.Proper) (calls : List Call) :
    (set.after calls).Proper ∧ set.Grows (set.after calls) := by
  have steps : ∀ (calls : List Call) (between : IndexSet), between.Proper ∧ set.Grows between →
      (between.after calls).Proper ∧ set.Grows (between.after calls) := by
    intro calls
    induction calls with
    | nil => exact fun _ kept => kept
    | cons call rest inductionHypothesis =>
        exact fun between kept => inductionHypothesis _ (call.keeps set between kept)
  exact steps calls set ⟨proper, .refl set⟩

/-! ### Answers and refusals -/

/-- A set has accepted values one after the other: it holds their indices besides its own, and
nothing else, and has answered with their numbers. -/
structure Accepts (set : IndexSet) (items : List Value) (numbers : List Nat)
    (grown : IndexSet) : Prop where
  done : outcome (items.mapM addValue) set = (.ok numbers, grown)
  extent : grown.fixedExtent = set.fixedExtent
  natives : ∀ native, native ∈ grown.natives ↔
    native ∈ set.natives ∨ ∃ item ∈ items, item.toInteger = .ok native
  numbered : List.Forall₂ (fun item number => ∃ native,
    item.toInteger = .ok native ∧ grown.toDense native = .ok number) items numbers

theorem outcome_addValue_eq_ok {item : Value} {number : Nat} {grown : IndexSet}
    (done : (addValue item).outcome set = (.ok number, grown)) :
    ∃ native, item.toInteger = .ok native ∧ set.add native = .ok (number, grown) :=
  bind_eq_ok (outcome_ofFunction_eq_ok done)

/-- A set that has added an index holds it besides its own ones, and nothing else. -/
theorem mem_natives_of_add {native : Int} {number : Nat} {grown : IndexSet}
    (done : set.add native = .ok (number, grown)) (other : Int) :
    other ∈ grown.natives ↔ other ∈ set.natives ∨ other = native := by
  obtain ⟨found, _, rfl | ⟨_, _, appended⟩⟩ := add_eq_ok done
  · refine ⟨.inl, ?_⟩
    rintro (known | rfl)
    · exact known
    · exact List.mem_of_getElem? found
  · rw [appended, List.mem_append, List.mem_singleton]

theorem Proper.accepts (proper : set.Proper) {items : List Value} {numbers : List Nat}
    {grown : IndexSet} (done : outcome (items.mapM addValue) set = (.ok numbers, grown)) :
    set.Accepts items numbers grown := by
  induction items generalizing set numbers with
  | nil =>
      cases done
      exact ⟨rfl, rfl, fun native => by simp, .nil⟩
  | cons item rest inductionHypothesis =>
      have whole := done
      rw [List.mapM_cons] at done
      obtain ⟨number, between, first, others⟩ := outcome_bind_eq_ok done
      obtain ⟨more, last, later, same⟩ := outcome_bind_eq_ok others
      cases same
      obtain ⟨native, read, added⟩ := outcome_addValue_eq_ok first
      have accepts := inductionHypothesis (proper.add added) later
      -- the first index keeps its number while the rest is taken in
      have kept := preserves_mapM (addValue_keeps between) rest between ⟨proper.add added, .refl _⟩
      rw [later] at kept
      have found : grown.natives[number]? = some native :=
        kept.2.getElem? (add_eq_ok added).1
      refine ⟨whole, accepts.extent.trans (add_eq_ok added).2.1, fun other => ?_,
        .cons ⟨native, read, (toDense_eq_ok_iff kept.1.distinct).mpr found⟩ accepts.numbered⟩
      rw [accepts.natives, mem_natives_of_add added, or_assoc, List.exists_mem_cons_iff, read,
        Except.ok.injEq, eq_comm]

/-- What accepted calls answer: the numbers of the indices that they were given. -/
structure AnswersNumbers (set : IndexSet) : Prop where
  add : ∀ item number grown, (addValue item).outcome set = (.ok number, grown) →
    ∃ native, item.toInteger = .ok native ∧ grown.toDense native = .ok number
  addMany : ∀ listed numbers grown, (addMany listed).outcome set = (.ok numbers, grown) →
    ∃ items, listed.elements = .ok items ∧ set.Accepts items numbers grown

/-- What refused calls leave: the set as it was, or grown by what was accepted before the first
refused element. -/
structure RefusesCleanly (set : IndexSet) : Prop where
  add : ∀ item reason left, (addValue item).outcome set = (.error reason, left) → left = set
  fixExtent : ∀ extent reason left,
    (Call.fixExtent extent).perform.outcome set = (.error reason, left) → left = set
  addMany : ∀ listed reason left, (addMany listed).outcome set = (.error reason, left) →
    listed.elements = .error reason ∧ left = set ∨
      ∃ before item rest numbers, listed.elements = .ok (before ++ item :: rest) ∧
        set.Accepts before numbers left ∧ (addValue item).outcome left = (.error reason, left)

theorem Proper.answersNumbers (proper : set.Proper) : set.AnswersNumbers where
  add item number grown done := by
    obtain ⟨native, read, added⟩ := outcome_addValue_eq_ok done
    exact ⟨native, read, (toDense_eq_ok_iff (proper.add added).distinct).mpr (add_eq_ok added).1⟩
  addMany listed numbers grown done := by
    obtain ⟨items, _, listing, taken⟩ := outcome_bind_eq_ok done
    obtain ⟨elements, rfl⟩ := outcome_lift_eq_ok listing
    exact ⟨items, elements, proper.accepts taken⟩

theorem Proper.refusesCleanly (proper : set.Proper) : set.RefusesCleanly where
  add item reason left refused := outcome_ofFunction_eq_error refused
  fixExtent extent reason left refused := outcome_ofFunction_eq_error refused
  addMany listed reason left refused := by
    rcases outcome_bind_eq_error refused with unlisted | ⟨items, between, listing, taken⟩
    · exact .inl ⟨(Prod.mk.inj unlisted).1, (Prod.mk.inj unlisted).2.symm⟩
    · obtain ⟨elements, rfl⟩ := outcome_lift_eq_ok listing
      obtain ⟨before, item, rest, numbers, reached, rfl, done, stopped⟩ :=
        outcome_mapM_eq_error taken
      obtain rfl := outcome_ofFunction_eq_error stopped
      exact .inr ⟨before, item, rest, numbers, elements, proper.accepts done, stopped⟩

/-! ### Vectors -/

/-- Vectors are carried between dense and native order. A dense vector that is spread is gathered
again as it was; a native vector that is gathered and spread keeps its items at the native indices
and has `fill` everywhere else. -/
structure CarriesVectors (α : Type) (set : IndexSet) : Prop where
  room : ∀ (fill : α) (dense : List α), (∃ native, set.spread fill (.ofList dense) = .ok native) ↔
    dense.length = set.denseExtent ∧ set.sparseExtent < unaffordableLength
  dense : ∀ (fill : α) (dense native : List α), set.spread fill (.ofList dense) = .ok native →
    set.gather (.ofList native) = .ok (.ofList dense)
  native : ∀ (fill : α) (vector : List α), set.sparseExtent ≤ vector.length →
    set.sparseExtent < unaffordableLength → ∃ dense native,
      set.gather (.ofList vector) = .ok dense ∧ set.spread fill dense = .ok native ∧
      (native.length : Int) = set.sparseExtent ∧
      ∀ place : Nat, place < set.sparseExtent →
        native[place]? = if (place : Int) ∈ set.natives then vector[place]? else some fill

theorem Proper.carriesVectors (proper : set.Proper) (α : Type) : set.CarriesVectors α where
  room fill dense := by
    constructor
    · rintro ⟨native, done⟩
      obtain ⟨sized, _, short⟩ := spread_eq_ok done
      exact ⟨Except.ok.inj sized, short⟩
    · rintro ⟨counted, short⟩
      obtain ⟨native, done, _⟩ := proper.exists_spread fill counted short
      exact ⟨native, done⟩
  dense fill dense native done := by
    obtain ⟨sized, spans, short⟩ := spread_eq_ok done
    have counted : dense.length = set.natives.length := Except.ok.inj sized
    have words := proper.nativeWords (word_of_natural proper.natural short)
    obtain ⟨_, again, _, each, _⟩ := proper.exists_spread fill counted short
    obtain rfl := Except.ok.inj (done.symm.trans again)
    have read : set.natives.map (fun index => native.getD index.toNat fill) = dense := by
      refine List.ext_getElem (by rw [List.length_map, counted]) fun number bound inside => ?_
      rw [List.length_map] at bound
      have pair : (set.natives[number], dense[number]) ∈ set.natives.zip dense :=
        List.mem_iff_getElem.mpr ⟨number, by rw [List.length_zip]; omega, List.getElem_zip⟩
      rw [List.getElem_map, List.getD_eq_getElem?_getD, each _ pair, Option.getD_some]
    rw [gather_of_inside fill (Int.le_of_eq spans.symm) words proper.inside, read, ← counted]
    rfl
  native fill vector long short := by
    let dense := set.natives.map fun index => vector.getD index.toNat fill
    have counted : dense.length = set.natives.length := List.length_map _
    have words := proper.nativeWords (word_of_natural proper.natural short)
    have gathered := gather_of_inside fill long words proper.inside
    obtain ⟨native, done, spans, each, others⟩ := proper.exists_spread fill counted short
    rw [counted] at done
    refine ⟨_, native, gathered, done, spans, fun place below => ?_⟩
    by_cases member : (place : Int) ∈ set.natives
    · have read : native[place]? = some (vector.getD place fill) :=
        each _ (mem_zip_map (fun index : Int => vector.getD index.toNat fill) member)
      have inside : place < vector.length := by omega
      rw [if_pos member, read, List.getD_eq_getElem?_getD, List.getElem?_eq_getElem inside,
        Option.getD_some]
    · rw [if_neg member, others place below member]

/-! ### All laws at once -/

/-- Whatever was called on a set, its native indices are different natural numbers below the extent,
dense numbers and native indices name each other, and no later call changes a dense number. Calls
answer with these numbers, a refused call leaves what was accepted before the refusal, and vectors
that find room are carried to the native space and back unchanged. -/
theorem numbering_is_one_to_one (α : Type) (extent : Int) :
    ∃ start, create (.int extent) = .ok start ∧ ∀ earlier later : List Call,
      (start.after earlier).Proper ∧ (start.after earlier).OneToOne ∧
      (∀ native number, (start.after earlier).toDense native = .ok number →
        ((start.after earlier).after later).toDense native = .ok number) ∧
      (start.after earlier).AnswersNumbers ∧ (start.after earlier).RefusesCleanly ∧
      (start.after earlier).CarriesVectors α := by
  refine ⟨_, create_int extent, fun earlier later => ?_⟩
  have proper := ((proper_create (create_int extent)).after earlier).1
  obtain ⟨properLater, grows⟩ := proper.after later
  exact ⟨proper, proper.oneToOne,
    fun _ _ known => grows.toDense proper.distinct properLater.distinct known,
    proper.answersNumbers, proper.refusesCleanly, proper.carriesVectors α⟩

/-- Accepted and refused calls that leave two indices. -/
def mixedCalls : List Call :=
  [.add (.int 5), .add (.int (-1)), .addMany (.list [.int 3, .text "x", .int 7]), .fixExtent 5,
    .fixExtent 8]

theorem mixed_calls_are_numbered :
    ∃ start, create (.int (-1)) = .ok start ∧
      (start.after mixedCalls).natives = [5, 3] ∧ (start.after mixedCalls).toDense 3 = .ok 1 ∧
      ∃ native : List Rat, (start.after mixedCalls).spread 0 (.ofList [1, 2]) = .ok native ∧
        (start.after mixedCalls).gather (.ofList native) = .ok (.ofList [1, 2]) := by
  obtain ⟨start, created, laws⟩ := numbering_is_one_to_one Rat (-1)
  have empty : create (.int (-1)) = .ok {} := rfl
  obtain rfl := Except.ok.inj (empty.symm.trans created)
  obtain ⟨_, _, _, _, _, vectors⟩ := laws mixedCalls []
  have left : after {} mixedCalls = ⟨[5, 3], some 8⟩ := rfl
  obtain ⟨native, done⟩ := (vectors.room 0 [1, 2]).mpr ⟨by rw [left]; rfl, by rw [left]; decide⟩
  exact ⟨_, created, by rw [left], by rw [left]; rfl, native, done, vectors.dense 0 _ _ done⟩

/-- A dense vector of one item is not spread over an extent for which there is no room. -/
theorem wide_extent_is_not_spread :
    ∃ start, create (.int 0x4000000000000000) = .ok start ∧
      (start.after [.add (.int 0)]).natives = [0] ∧
      ¬ ∃ native : List Rat, (start.after [.add (.int 0)]).spread 0 (.ofList [1]) = .ok native ∧
        (start.after [.add (.int 0)]).gather (.ofList native) = .ok (.ofList [1]) := by
  refine ⟨{ fixedExtent := some 0x4000000000000000 }, rfl, rfl, ?_⟩
  rintro ⟨native, done, _⟩
  have short := (spread_eq_ok done).2.2
  exact absurd short (by decide)

end Regrid.IndexSet
