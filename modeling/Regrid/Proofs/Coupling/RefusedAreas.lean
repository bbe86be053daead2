import Regrid.Proofs.Coupling.Entries
import Regrid.Scalar.Rational

/-!
Contract: what a refused call for the areas on model cells leaves in the sums of its caller.

Owns:
- steps that add the same entries whatever the sums hold already;
- the overlaps before the refused one, whose areas stay in the sums;
- what a later call on the same overlaps makes of these areas.

Does not own: the operator of a call that answers.

The area of an overlap is added as soon as a builder has taken its entry, and the native shape
comes last. So the sums of a refused call are as they were only if the first overlap was refused
already, or if there are no overlaps at all.
-/

namespace Regrid

open Attempt

variable {γ α τ υ : Type} [Scalar α]

/-! ### Steps that add to sums -/

namespace Accumulator

/-- A step answers in one way and adds the same entries, whatever the sums are before it. -/
def Adds (step : Attempt (Accumulator α) τ) (answer : Except Error τ)
    (added : List (Int × Int × α)) : Prop :=
  ∀ areas, step.outcome areas = (answer, areas.addAll added)

theorem adds_lift (answer : Except Error τ) :
    Adds (liftM answer : Attempt (Accumulator α) τ) answer [] :=
  outcome_lift answer

variable {step : Attempt (Accumulator α) τ} {next : τ → Attempt (Accumulator α) υ}
  {early late : List (Int × Int × α)}

theorem Adds.bind {middle : τ} {answer : Except Error υ} (first : Adds step (.ok middle) early)
    (second : Adds (next middle) answer late) : Adds (step >>= next) answer (early ++ late) := by
  intro areas
  rw [outcome_bind_of_ok (first areas), second, addAll_append]

/-- A step that is refused adds what it added before, and nothing comes after it. -/
theorem Adds.bind_refused {reason : Error} (first : Adds step (.error reason) early) :
    Adds (step >>= next) (.error reason) early := by
  intro areas
  rw [outcome_bind, first]

/-- Only the rows and the values of entries are added up. -/
theorem addAll_congr {first second : List (Int × Int × α)}
    (same : List.Forall₂ (fun entry other => entry.1 = other.1 ∧ entry.2.2 = other.2.2)
      first second) (areas : Accumulator α) : areas.addAll first = areas.addAll second := by
  induction same generalizing areas with
  | nil => rfl
  | cons agrees _ inductionHypothesis =>
      simp only [addAll, List.foldl_cons, agrees] at inductionHypothesis ⊢
      exact inductionHypothesis _

/-- Only adding nothing leaves all sums as they are: the empty sums hold what was added last. -/
theorem addAll_eq_self_iff (added : List (Int × Int × α)) :
    (∀ areas : Accumulator α, areas.addAll added = areas) ↔ added = [] := by
  constructor
  · intro unchanged
    rcases List.eq_nil_or_concat added with none | ⟨earlier, last, rfl⟩
    · exact none
    · have sums := congrArg Accumulator.sums (unchanged {})
      rw [List.concat_eq_append, addAll_append] at sums
      have held := Value.lookupKeyed_putKeyed ((({} : Accumulator α).addAll earlier).sums) last.1
        last.1 (((({} : Accumulator α).addAll earlier).get? last.1).getD Scalar.zero + last.2.2)
      rw [if_pos rfl] at held
      exact absurd (held.symm.trans (congrArg (Value.lookupKeyed (.int last.1)) sums)) nofun
  · rintro rfl areas
    rfl

end Accumulator

/-! ### Overlaps that are taken and overlaps that are refused -/

namespace Sheet

open Accumulator

/-- A builder takes an overlap as an entry at natural positions. -/
structure Takes (sheet : Sheet γ α) (overlap : Overlap α) (entry : Int × Int × α) : Prop where
  read : sheet.entry (·.modelCell) overlap = .ok entry
  row : 0 ≤ entry.1
  column : 0 ≤ entry.2.1

/-- No builder takes an overlap. If it has no place in height-point space, that is the reason. -/
structure Refuses (sheet : Sheet γ α) (overlap : Overlap α) (reason : Error) : Prop where
  untaken : ∀ entry, ¬ sheet.Takes overlap entry
  named : ∀ refusal, sheet.heightIndex overlap.modelCell overlap.elevation = .error refusal →
    reason = refusal

/-- The native shape of a sheet is one of natural numbers, and entries lie inside it. -/
def Encloses (sheet : Sheet γ α) (entries : List (Int × Int × α)) : Prop :=
  ∃ rowExtent columnExtent, sheet.modelExtent.toInteger = .ok rowExtent ∧
    sheet.heightExtent = .ok columnExtent ∧ (0 ≤ rowExtent ∧ 0 ≤ columnExtent) ∧
    ∀ entry ∈ entries, Inside rowExtent columnExtent entry

/-- After some entries a call is refused at the first overlap that is left, and at the native
shape if none is. -/
def StopsAt (sheet : Sheet γ α) (entries : List (Int × Int × α)) (reason : Error) :
    List (Overlap α) → Prop
  | [] => ¬ sheet.Encloses entries
  | overlap :: _ => sheet.Refuses overlap reason

variable {sheet : Sheet γ α} {builder changed : SparseBuilder α} {overlap : Overlap α}
  {overlaps : List (Overlap α)} {earlier added : List (Int × Int × α)} {reason : Error}

omit [Scalar α] in
/-- An overlap is added to a builder exactly if builders take it. -/
theorem taken_of_addOverlap (collects : builder.Collects earlier)
    (done : sheet.addOverlap overlap.modelCell overlap builder = .ok changed) :
    ∃ entry, sheet.Takes overlap entry ∧ changed.Collects (earlier ++ [entry]) := by
  obtain ⟨entry, read, taken⟩ := (addOverlap_eq_ok_iff (·.modelCell)).mp done
  have collected := collects.added taken
  have rowMember : entry.1 ∈ (earlier ++ [entry]).map (·.1) := by simp
  have columnMember : entry.2.1 ∈ (earlier ++ [entry]).map (·.2.1) := by simp
  refine ⟨entry, ⟨read, ?_, ?_⟩, collected⟩
  · exact collected.rows.natural _ (collected.rows.mem_iff.mpr rowMember)
  · exact collected.columns.natural _ (collected.columns.mem_iff.mpr columnMember)

omit [Scalar α] in
theorem Takes.exists_addOverlap {entry : Int × Int × α} (takes : sheet.Takes overlap entry)
    (collects : builder.Collects earlier) :
    ∃ changed, sheet.addOverlap overlap.modelCell overlap builder = .ok changed := by
  obtain ⟨changed, taken⟩ := collects.exists_add takes.row takes.column entry.2.2
  exact ⟨changed, (addOverlap_eq_ok_iff (·.modelCell)).mpr ⟨entry, takes.read, taken⟩⟩

omit [Scalar α] in
theorem refuses_of_addOverlap (collects : builder.Collects earlier)
    (refused : sheet.addOverlap overlap.modelCell overlap builder = .error reason) :
    sheet.Refuses overlap reason := by
  refine ⟨fun entry takes => ?_, fun refusal unplaced => ?_⟩
  · obtain ⟨changed, done⟩ := takes.exists_addOverlap collects
    cases done.symm.trans refused
  · rw [addOverlap, unplaced] at refused
    exact (Except.error.inj refused).symm

/-- Two sheets that take the same overlaps add the same areas to the same model cells. -/
theorem addAll_eq_of_takes {other : Sheet γ α} {others : List (Int × Int × α)}
    (first : List.Forall₂ sheet.Takes overlaps added)
    (second : List.Forall₂ other.Takes overlaps others) (areas : Accumulator α) :
    areas.addAll added = areas.addAll others := by
  refine addAll_congr (forall₂_trans first.flip second ?_) areas
  intro entry overlap partner takes partnerTakes
  obtain ⟨_, row, area⟩ := entry_eq_ok_iff.mp takes.read
  obtain ⟨_, partnerRow, partnerArea⟩ := entry_eq_ok_iff.mp partnerTakes.read
  exact ⟨Except.ok.inj (row.symm.trans partnerRow), area.symm.trans partnerArea⟩

/-! ### Runs over overlaps -/

/-- One overlap is added to the builder, and then its area to the sums. -/
def addModelOverlap (sheet : Sheet γ α) (builder : SparseBuilder α) (overlap : Overlap α) :
    Attempt (Accumulator α) (SparseBuilder α) := do
  let builder ← sheet.addOverlap overlap.modelCell overlap builder
  Accumulator.addAt overlap.modelCell overlap.area
  return builder

theorem adds_addModelOverlap {entry : Int × Int × α} (takes : sheet.Takes overlap entry)
    (done : sheet.addOverlap overlap.modelCell overlap builder = .ok changed) :
    Adds (sheet.addModelOverlap builder overlap) (.ok changed) [entry] := fun areas =>
  (outcome_addModelOverlap_eq_ok_iff areas).mpr ⟨done, entry, takes.read, rfl⟩

theorem adds_addModelOverlap_refused
    (refused : sheet.addOverlap overlap.modelCell overlap builder = .error reason) :
    Adds (sheet.addModelOverlap builder overlap) (.error reason) [] := by
  rw [addModelOverlap, refused]
  exact (adds_lift (.error reason)).bind_refused

/-- The overlaps are taken one after the other up to the first one that is refused, and the areas
of those that were taken are added. -/
theorem adds_addModelOverlaps (sheet : Sheet γ α) (collects : builder.Collects earlier)
    (overlaps : List (Overlap α)) :
    ∃ answer done rest added, overlaps = done ++ rest ∧ List.Forall₂ sheet.Takes done added ∧
      Adds (overlaps.foldlM sheet.addModelOverlap builder) answer added ∧
      ((∃ changed, answer = .ok changed ∧ rest = [] ∧ changed.Collects (earlier ++ added)) ∨
        ∃ reason overlap later, answer = .error reason ∧ rest = overlap :: later ∧
          sheet.Refuses overlap reason) := by
  induction overlaps generalizing builder earlier with
  | nil => exact ⟨.ok builder, [], [], [], rfl, .nil, fun _ => rfl,
      .inl ⟨builder, rfl, rfl, by rwa [List.append_nil]⟩⟩
  | cons overlap overlaps inductionHypothesis =>
      cases first : sheet.addOverlap overlap.modelCell overlap builder with
      | error reason =>
          refine ⟨.error reason, [], overlap :: overlaps, [], rfl, .nil, ?_,
            .inr ⟨reason, overlap, overlaps, rfl, rfl, refuses_of_addOverlap collects first⟩⟩
          rw [List.foldlM_cons]
          exact (adds_addModelOverlap_refused first).bind_refused
      | ok middle =>
          obtain ⟨entry, takes, collected⟩ := taken_of_addOverlap collects first
          obtain ⟨answer, done, rest, added, rfl, taken, adds, answers⟩ :=
            inductionHypothesis collected
          refine ⟨answer, overlap :: done, rest, entry :: added, rfl, .cons takes taken, ?_, ?_⟩
          · rw [List.foldlM_cons]
            exact (adds_addModelOverlap takes first).bind adds
          · rw [List.append_assoc] at answers
            exact answers

/-- The operator of a builder that has taken all overlaps. -/
def assembleModel (sheet : Sheet γ α) (builder : SparseBuilder α) :
    Except Error (DenseOperator α) := do
  let columns ← sheet.heightSpace
  (← fixedShape sheet.modelExtent columns builder).toOperator

theorem adds_assembleModel (sheet : Sheet γ α) (builder : SparseBuilder α) :
    Adds (do
      let columns ← sheet.heightSpace
      (← fixedShape sheet.modelExtent columns builder).toOperator :
        Attempt (Accumulator α) (DenseOperator α)) (sheet.assembleModel builder) [] := by
  intro areas
  rw [assembleModel]
  cases sheet.heightSpace with
  | error reason => rfl
  | ok columns =>
      refine (outcome_bind_of_ok (outcome_lift (.ok columns) areas) _).trans ?_
      cases fixed : fixedShape sheet.modelExtent columns builder <;>
      · simp only [bind, Except.bind, fixed]
        rfl

/-- Entries inside the native shape of the sheet are made into an operator. -/
theorem Encloses.exists_assembleModel (encloses : sheet.Encloses added)
    (collects : builder.Collects added) :
    ∃ operator, sheet.assembleModel builder = .ok operator := by
  obtain ⟨rowExtent, columnExtent, rowRead, columnRead, ⟨rowNatural, columnNatural⟩, inside⟩ :=
    encloses
  obtain ⟨columns, space, columnInteger⟩ := bind_eq_ok columnRead
  have read : fixedShape sheet.modelExtent columns builder =
      fixedShape (.int rowExtent) (.int columnExtent) builder := by
    rw [fixedShape, fixedShape, SparseBuilder.fixShape, SparseBuilder.fixShape, rowRead,
      columnInteger]
    rfl
  have shaped := fixedShape_of_inside collects rowNatural columnNatural
    fun entry member => ⟨(inside entry member).1.2, (inside entry member).2.2⟩
  obtain ⟨operator, assembled, _⟩ := collects.exists_toOperator rowExtent columnExtent
  refine ⟨operator, ?_⟩
  rw [assembleModel, space]
  refine (congrArg (· >>= SparseBuilder.toOperator) (read.trans shaped)).trans assembled

/-- The call either takes all overlaps and answers, or takes those before some point and is
refused there. Neither depends on the sums, to which the areas of the taken overlaps are added. -/
theorem adds_heightToModel (kept : sheet.overlaps = some overlaps) :
    ∃ answer done rest added, overlaps = done ++ rest ∧ List.Forall₂ sheet.Takes done added ∧
      Adds sheet.heightToModel answer added ∧
      ((∃ operator, answer = .ok operator ∧ rest = []) ∨
        ∃ reason, answer = .error reason ∧ sheet.StopsAt added reason rest) := by
  obtain ⟨answer, done, rest, added, split, taken, adds, answers⟩ :=
    adds_addModelOverlaps sheet SparseBuilder.collects_empty overlaps
  rcases answers with ⟨builder, rfl, none, collects⟩ | ⟨reason, overlap, later, rfl, more, refuses⟩
  · refine ⟨sheet.assembleModel builder, done, rest, added, split, taken, ?_, ?_⟩
    · rw [heightToModel, requireOverlaps, kept, ← List.append_nil added]
      exact adds.bind (sheet.adds_assembleModel builder)
    · cases assembled : sheet.assembleModel builder with
      | ok operator => exact .inl ⟨operator, rfl, none⟩
      | error reason =>
          refine .inr ⟨reason, rfl, ?_⟩
          rw [none]
          intro encloses
          obtain ⟨operator, done⟩ := encloses.exists_assembleModel collects
          cases done.symm.trans assembled
  · refine ⟨.error reason, done, rest, added, split, taken, ?_, .inr ⟨reason, rfl, ?_⟩⟩
    · rw [heightToModel, requireOverlaps, kept]
      exact adds.bind_refused
    · rw [more]
      exact refuses

/-! ### Refused calls -/

/-- A call on listed overlaps that is refused stops at one of them, or at the native shape behind
the last one. It does so whatever the sums are, and leaves the areas of the overlaps before in
them. So it leaves every caller's sums as they were only if it stopped before the first area. When
the call is made again after its cause was removed, the areas that were left count twice. -/
theorem refused_areas_stay (kept : sheet.overlaps = some overlaps) {start : Accumulator α}
    (refused : (sheet.heightToModel.outcome start).1 = .error reason) :
    ∃ done rest added, overlaps = done ++ rest ∧ List.Forall₂ sheet.Takes done added ∧
      sheet.StopsAt added reason rest ∧
      (∀ areas, sheet.heightToModel.outcome areas = (.error reason, areas.addAll added)) ∧
      ((∀ areas, (sheet.heightToModel.outcome areas).2 = areas) ↔ done = []) ∧
      ∀ (mended : Sheet γ α) operator areas whole, mended.overlaps = some overlaps →
        mended.heightToModel.outcome areas = (.ok operator, whole) →
        ∃ others, whole = (areas.addAll added).addAll others ∧
          mended.heightToModel.outcome (areas.addAll added) =
            (.ok operator, ((areas.addAll added).addAll added).addAll others) := by
  obtain ⟨answer, done, rest, added, split, taken, adds, answers⟩ := adds_heightToModel kept
  have same : answer = .error reason := by rw [← refused, adds start]
  rcases answers with ⟨operator, rfl, _⟩ | ⟨other, rfl, stops⟩
  · cases same
  cases same
  refine ⟨done, rest, added, split, taken, stops, adds, ?_, ?_⟩
  · have none : added = [] ↔ done = [] := by
      rw [← List.length_eq_zero_iff, ← List.length_eq_zero_iff, taken.length_eq]
    rw [← none, ← addAll_eq_self_iff]
    exact forall_congr' fun areas => by rw [adds areas]
  · intro mended operator areas whole mendedKept answered
    obtain ⟨mendedAnswer, all, left, listed, allSplit, allTaken, mendedAdds, mendedAnswers⟩ :=
      adds_heightToModel mendedKept
    obtain ⟨same, rfl⟩ := Prod.mk.inj ((mendedAdds areas).symm.trans answered)
    rcases mendedAnswers with ⟨_, rfl, rfl⟩ | ⟨_, rfl, _⟩
    · cases same
      rw [List.append_nil] at allSplit
      subst allSplit
      rw [split] at allTaken
      have early := List.forall₂_take_append _ _ _ allTaken.flip
      have again := addAll_eq_of_takes taken early.flip
      have cut : ∀ sums : Accumulator α, sums.addAll listed =
          (sums.addAll added).addAll (listed.drop done.length) := by
        intro sums
        rw [again, ← addAll_append, List.take_append_drop]
      refine ⟨listed.drop done.length, cut areas, ?_⟩
      rw [mendedAdds, cut]
    · cases same

/-- An ice cell that lies on two model cells, at one height point. The classifier finds a second
height point over the second model cell. -/
def misclassified : Sheet (Grid Rat) Rat where
  variant := .onCells
  name := .text "ice"
  iceMesh := { cells := Table.empty.push 0 { area := 0 } }
  exchangeMesh :=
    { type := .exchange
      cells := (Table.empty.push 0 { i := .int 0, j := .int 0, area := 1 }).push 1
        { i := .int 1, j := .int 0, area := 2 } }
  modelExtent := .int 2
  classifier := some fun modelCell _ => .ok modelCell
  overlaps := some [⟨.int 0, .int 0, 1, 0⟩, ⟨.int 1, .int 0, 2, 0⟩]

/-- The second overlap is refused after the area of the first one was added, and with a second
height point the call can be made again. -/
theorem second_overlap_is_refused :
    ∃ added : List (Int × Int × Rat), added ≠ [] ∧
      (∀ areas, misclassified.heightToModel.outcome areas =
        (.error (.heightPointOutside 1 "1"), areas.addAll added)) ∧
      ∃ operator others, { misclassified with heightPoints := .int 2 }.heightToModel.outcome
        (({} : Accumulator Rat).addAll added) =
          (.ok operator, ((({} : Accumulator Rat).addAll added).addAll added).addAll others) := by
  have refused : (misclassified.heightToModel.outcome {}).1 =
      .error (.heightPointOutside 1 "1") := rfl
  obtain ⟨done, rest, added, split, taken, _, leaves, unchanged, again⟩ :=
    refused_areas_stay (rfl : misclassified.overlaps = some _) refused
  obtain ⟨others, _, counted⟩ :=
    again { misclassified with heightPoints := .int 2 } _ {} _ rfl rfl
  refine ⟨added, ?_, leaves, _, others, counted⟩
  rintro rfl
  have first := congrArg (fun left => left.2.sums.length) (leaves {})
  exact absurd first (by decide +kernel)

/-- The sheet holds the overlaps that it lists, and a refused call changes empty sums. -/
theorem refused_call_changes_sums :
    ¬ ∀ (sheet : Sheet (Grid Rat) Rat) (overlaps : List (Overlap Rat))
        (areas after : Accumulator Rat) (reason : Error),
      sheet.listOverlaps = .ok overlaps → sheet.overlaps = some overlaps →
      sheet.heightToModel.outcome areas = (.error reason, after) → after.sums = areas.sums := by
  intro claimed
  have unchanged := claimed misclassified [⟨.int 0, .int 0, 1, 0⟩, ⟨.int 1, .int 0, 2, 0⟩] {} _
    (.heightPointOutside 1 "1") rfl rfl rfl
  exact absurd (congrArg List.length unchanged) (by decide +kernel)

end Sheet

end Regrid
