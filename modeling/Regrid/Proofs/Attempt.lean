import Mathlib.Data.List.Forall2
import Mathlib.Data.List.ReduceOption
import Mathlib.Tactic.Tauto
import Regrid.Shared.Heap

/-!
Contract: what a step that is made of smaller steps answers and leaves behind.

Owns:
- one equation for each way in which steps are put together;
- properties of states that steps carry along, whatever they answer.

Does not own: any particular state.
-/

namespace Regrid.Attempt

variable {σ ρ τ υ ι : Type}

/-! ### Answers and refusals -/

/-- An answer of two computations in a row comes from an answer of the first one. -/
theorem bind_eq_ok {first : Except Error τ} {next : τ → Except Error υ} {answer : υ}
    (done : first >>= next = .ok answer) :
    ∃ middle, first = .ok middle ∧ next middle = .ok answer := by
  cases first with
  | error reason => cases done
  | ok middle => exact ⟨middle, rfl, done⟩

theorem bind_eq_ok_iff {first : Except Error τ} {next : τ → Except Error υ} {answer : υ} :
    first >>= next = .ok answer ↔ ∃ middle, first = .ok middle ∧ next middle = .ok answer := by
  refine ⟨bind_eq_ok, ?_⟩
  rintro ⟨middle, rfl, done⟩
  exact done

theorem eq_ok_of_toOption {result : Except Error τ} {answer : τ}
    (answered : result.toOption = some answer) : result = .ok answer := by
  cases result with
  | error reason => cases answered
  | ok other => exact congrArg Except.ok (Option.some.inj answered)

/-- A computation that first refuses in some cases. -/
theorem ite_error_eq_ok_iff {refused : Prop} [Decidable refused] {reason : Error}
    {rest : Except Error τ} {answer : τ} :
    (if refused then .error reason else rest) = .ok answer ↔ ¬ refused ∧ rest = .ok answer := by
  split
  next yes => simp [yes]
  next no => simp [no]

theorem refuse_eq_ok_iff {refused : Prop} [Decidable refused] {reason : Error}
    {next : PUnit → Except Error τ} {rest : Except Error τ} {answer : τ} :
    (if refused then throw reason >>= next else rest) = .ok answer ↔
      ¬ refused ∧ rest = .ok answer := by
  rw [show throw reason >>= next = .error reason from rfl, ite_error_eq_ok_iff]

theorem exists_item_of_mem {R : ι → τ → Prop} {items : List ι} {answers : List τ}
    (each : List.Forall₂ R items answers) {answer : τ} (member : answer ∈ answers) :
    ∃ item ∈ items, R item answer := by
  induction each with
  | nil => cases member
  | cons first _ inductionHypothesis =>
      rcases List.mem_cons.mp member with rfl | later
      · exact ⟨_, by simp, first⟩
      · obtain ⟨item, itemMember, related⟩ := inductionHypothesis later
        exact ⟨item, by simp [itemMember], related⟩

theorem exists_answer_of_mem {R : ι → τ → Prop} {items : List ι} {answers : List τ}
    (each : List.Forall₂ R items answers) {item : ι} (member : item ∈ items) :
    ∃ answer ∈ answers, R item answer :=
  exists_item_of_mem each.flip member

/-- The answers of a computation on each item of a list, in order. -/
theorem mapM_eq_ok_iff (step : ι → Except Error τ) (items : List ι) (answers : List τ) :
    items.mapM step = .ok answers ↔
      List.Forall₂ (fun item answer => step item = .ok answer) items answers := by
  induction items generalizing answers with
  | nil => cases answers <;> simp [pure, Except.pure]
  | cons item rest inductionHypothesis =>
      rw [List.mapM_cons]
      constructor
      · intro done
        obtain ⟨answer, first, others⟩ := bind_eq_ok done
        obtain ⟨answers, later, same⟩ := bind_eq_ok others
        cases same
        exact .cons first ((inductionHypothesis _).mp later)
      · intro each
        cases each with
        | cons first later =>
            rw [first, (inductionHypothesis _).mpr later]
            rfl

theorem exists_forall₂ {R : ι → τ → Prop} {items : List ι}
    (each : ∀ item ∈ items, ∃ answer, R item answer) : ∃ answers, List.Forall₂ R items answers := by
  induction items with
  | nil => exact ⟨[], .nil⟩
  | cons item rest inductionHypothesis =>
      obtain ⟨answer, first⟩ := each item (by simp)
      obtain ⟨answers, later⟩ := inductionHypothesis
        fun other member => each other (by simp [member])
      exact ⟨answer :: answers, .cons first later⟩

theorem forall₂_imp_of_mem {R S : ι → τ → Prop} {items : List ι} {others : List τ}
    (each : List.Forall₂ R items others)
    (related : ∀ item ∈ items, ∀ other ∈ others, R item other → S item other) :
    List.Forall₂ S items others := by
  induction each with
  | nil => exact .nil
  | cons first _ inductionHypothesis =>
      refine .cons (related _ (by simp) _ (by simp) first) (inductionHypothesis ?_)
      exact fun item member other otherMember =>
        related item (by simp [member]) other (by simp [otherMember])

/-- Related items stand at the same positions. -/
theorem forall₂_zipIdx {R : ι → τ → Prop} {items : List ι} {others : List τ}
    (each : List.Forall₂ R items others) (start : Nat) :
    List.Forall₂ (fun first second => R first.1 second.1 ∧ first.2 = second.2)
      (items.zipIdx start) (others.zipIdx start) := by
  induction each generalizing start with
  | nil => exact .nil
  | cons first _ inductionHypothesis => exact .cons ⟨first, rfl⟩ (inductionHypothesis (start + 1))

/-- Tests that agree on related items keep related items. -/
theorem forall₂_filter {R : ι → τ → Prop} {items : List ι} {answers : List τ} {f : ι → Bool}
    {g : τ → Bool} (each : List.Forall₂ R items answers)
    (agree : ∀ item ∈ items, ∀ answer, R item answer → f item = g answer) :
    List.Forall₂ R (items.filter f) (answers.filter g) := by
  induction each with
  | nil => exact .nil
  | @cons item answer _ _ first _ inductionHypothesis =>
      have later := inductionHypothesis fun other member => agree other (by simp [member])
      have same := agree item (by simp) answer first
      rw [List.filter_cons, List.filter_cons, same]
      by_cases kept : g answer = true
      · rw [if_pos kept, if_pos kept]
        exact .cons first later
      · rw [if_neg kept, if_neg kept]
        exact later

theorem exists_mapM_eq_ok {step : ι → Except Error τ} {items : List ι}
    (each : ∀ item ∈ items, ∃ answer, step item = .ok answer) :
    ∃ answers, items.mapM step = .ok answers := by
  simp only [mapM_eq_ok_iff]
  exact exists_forall₂ each

/-- Computing in two steps on each item is computing on all answers of the first step. -/
theorem mapM_mapM {first : ι → Except Error τ} {items : List ι} {middle : List τ}
    (done : items.mapM first = .ok middle) (second : τ → Except Error υ) :
    middle.mapM second = items.mapM fun item => first item >>= second := by
  rw [mapM_eq_ok_iff] at done
  induction done with
  | nil => rfl
  | cons answered _ inductionHypothesis =>
      simp only [List.mapM_cons, answered, inductionHypothesis]
      rfl

/-- Where a computation answers on all items, another one does the same on the list exactly if it
does the same on each item. -/
theorem mapM_eq_mapM_iff {step other : ι → Except Error τ} {items : List ι} {answers : List τ}
    (done : items.mapM other = .ok answers) :
    items.mapM step = items.mapM other ↔ ∀ item ∈ items, step item = other item := by
  rw [done, mapM_eq_ok_iff]
  rw [mapM_eq_ok_iff] at done
  induction done with
  | nil => simp
  | cons answered _ inductionHypothesis =>
      rw [List.forall₂_cons, inductionHypothesis, List.forall_mem_cons, answered]

/-- Two computations that do the same on related items do the same on the lists. -/
theorem mapM_eq_mapM_of_forall₂ {step : ι → Except Error τ} {other : ρ → Except Error τ}
    {items : List ι} {others : List ρ}
    (each : List.Forall₂ (fun item partner => step item = other partner) items others) :
    items.mapM step = others.mapM other := by
  induction each with
  | nil => rfl
  | cons first _ inductionHypothesis =>
      rw [List.mapM_cons, List.mapM_cons, first, inductionHypothesis]

theorem forall₂_trans {R : ι → τ → Prop} {S : τ → υ → Prop} {T : ι → υ → Prop} {items : List ι}
    {others : List τ} {answers : List υ} (first : List.Forall₂ R items others)
    (second : List.Forall₂ S others answers)
    (related : ∀ item other answer, R item other → S other answer → T item answer) :
    List.Forall₂ T items answers := by
  induction first generalizing answers with
  | nil =>
      cases second
      exact .nil
  | cons same _ inductionHypothesis =>
      cases second with
      | cons next later => exact .cons (related _ _ _ same next) (inductionHypothesis later)

/-- Where a computation answers on some items, another one answers on related items with
related answers, if it does so item by item. -/
theorem exists_mapM_of_forall₂ {R : ι → ρ → Prop} {S : τ → υ → Prop} {step : ι → Except Error τ}
    {other : ρ → Except Error υ} {items : List ι} {others : List ρ} {answers : List υ}
    (each : List.Forall₂ R items others) (done : others.mapM other = .ok answers)
    (related : ∀ first second answer, R first second → other second = .ok answer →
      ∃ own, step first = .ok own ∧ S own answer) :
    ∃ owns, items.mapM step = .ok owns ∧ List.Forall₂ S owns answers := by
  rw [mapM_eq_ok_iff] at done
  simp only [mapM_eq_ok_iff]
  induction each generalizing answers with
  | nil =>
      cases done
      exact ⟨[], .nil, .nil⟩
  | @cons first second _ _ same _ inductionHypothesis =>
      cases done with
      | @cons _ answer _ _ answered later =>
          obtain ⟨own, ownDone, ownRelated⟩ := related first second answer same answered
          obtain ⟨owns, ownsDone, ownsRelated⟩ := inductionHypothesis later
          exact ⟨own :: owns, .cons ownDone ownsDone, .cons ownRelated ownsRelated⟩

/-- What a computation picks from the items of a list: its answers on all items, less the
absent ones. -/
theorem filterMapM_eq_ok_iff (step : ι → Except Error (Option τ)) (items : List ι)
    (answers : List τ) :
    items.filterMapM step = .ok answers ↔
      ∃ options, List.Forall₂ (fun item option => step item = .ok option) items options ∧
        answers = options.reduceOption := by
  induction items generalizing answers with
  | nil => simp [pure, Except.pure, eq_comm]
  | cons item rest inductionHypothesis =>
      rw [List.filterMapM_cons]
      constructor
      · intro done
        obtain ⟨option, first, others⟩ := bind_eq_ok done
        cases option with
        | none =>
            obtain ⟨options, later, same⟩ := (inductionHypothesis _).mp others
            exact ⟨none :: options, .cons first later, by simpa using same⟩
        | some answer =>
            obtain ⟨kept, laterDone, same⟩ := bind_eq_ok others
            obtain ⟨options, later, rfl⟩ := (inductionHypothesis _).mp laterDone
            cases same
            exact ⟨some answer :: options, .cons first later, by simp⟩
      · rintro ⟨options, each, rfl⟩
        cases each with
        | @cons _ option _ options first later =>
            have laterDone := (inductionHypothesis _).mpr ⟨options, later, rfl⟩
            rw [first]
            cases option with
            | none => simpa [bind, Except.bind] using laterDone
            | some answer => simp [bind, Except.bind, laterDone, pure, Except.pure]

theorem filterMapM_of_ok {step : ι → Except Error (Option τ)} {pick : ι → Option τ}
    {items : List ι} (each : ∀ item ∈ items, step item = .ok (pick item)) :
    items.filterMapM step = .ok (items.filterMap pick) := by
  refine (filterMapM_eq_ok_iff ..).mpr ⟨items.map pick, ?_, ?_⟩
  · exact List.forall₂_map_right_iff.mpr (List.forall₂_same.mpr each)
  · rw [List.reduceOption, List.filterMap_map]
    rfl

/-- Where a computation refuses some item of a list, it refuses a first one. -/
theorem exists_first_refusal {step : ι → Except Error τ} {items : List ι}
    (refuses : ∃ item ∈ items, ∃ refusal, step item = .error refusal) :
    ∃ done item rest reason, items = done ++ item :: rest ∧
      (∀ other ∈ done, ∃ answer, step other = .ok answer) ∧ step item = .error reason := by
  induction items with
  | nil =>
      obtain ⟨_, member, _⟩ := refuses
      cases member
  | cons first rest inductionHypothesis =>
      cases here : step first with
      | error reason => exact ⟨[], first, rest, reason, rfl, nofun, here⟩
      | ok answer =>
          obtain ⟨item, member, refusal, refused⟩ := refuses
          have later : item ∈ rest := by
            rcases List.mem_cons.mp member with rfl | later
            · cases here.symm.trans refused
            · exact later
          obtain ⟨done, next, left, reason, rfl, answered, stops⟩ :=
            inductionHypothesis ⟨item, later, refusal, refused⟩
          exact ⟨first :: done, next, left, reason, rfl,
            List.forall_mem_cons.mpr ⟨⟨answer, here⟩, answered⟩, stops⟩

/-- The first item that is refused decides, and the items after it are not looked at. -/
theorem filterMapM_eq_error {step : ι → Except Error (Option τ)} {done rest : List ι} {item : ι}
    {reason : Error} (answered : ∀ other ∈ done, ∃ option, step other = .ok option)
    (refused : step item = .error reason) :
    (done ++ item :: rest).filterMapM step = .error reason := by
  induction done with
  | nil => simp [List.filterMapM_cons, refused, bind, Except.bind]
  | cons other done inductionHypothesis =>
      obtain ⟨⟨option, here⟩, later⟩ := List.forall_mem_cons.mp answered
      rw [List.cons_append, List.filterMapM_cons, here]
      simp only [bind, Except.bind, inductionHypothesis later]
      cases option <;> rfl

/-- What a computation keeps of a list are the items that pass a test which agrees with it. -/
theorem filterM_eq_ok {test : ι → Except Error Bool} {keep : ι → Bool} {items kept : List ι}
    (agree : ∀ item verdict, test item = .ok verdict → keep item = verdict)
    (done : items.filterM test = .ok kept) : kept = items.filter keep := by
  have steps : ∀ (items collected : List ι) {kept : List ι},
      List.filterAuxM test items collected = .ok kept →
        kept = (items.filter keep).reverse ++ collected := by
    intro items
    induction items with
    | nil =>
        intro collected kept done
        cases done
        rfl
    | cons item rest inductionHypothesis =>
        intro collected kept done
        obtain ⟨verdict, answered, later⟩ := bind_eq_ok done
        rw [inductionHypothesis _ later, List.filter_cons, agree item verdict answered]
        cases verdict <;> simp
  obtain ⟨collected, collectedDone, same⟩ := bind_eq_ok done
  cases same
  rw [steps items [] collectedDone, List.append_nil, List.reverse_reverse]

/-- A filter that is not refused has asked its test about every item. -/
theorem exists_answer_of_filterM {test : ι → Except Error Bool} {items kept : List ι}
    (done : items.filterM test = .ok kept) {item : ι} (member : item ∈ items) :
    ∃ verdict, test item = .ok verdict := by
  have steps : ∀ {rest collected kept : List ι}, List.filterAuxM test rest collected = .ok kept →
      item ∈ rest → ∃ verdict, test item = .ok verdict := by
    intro rest
    induction rest with
    | nil => exact fun _ impossible => nomatch impossible
    | cons first rest inductionHypothesis =>
        intro collected kept done member
        obtain ⟨verdict, answered, later⟩ := bind_eq_ok done
        rcases List.mem_cons.mp member with rfl | other
        · exact ⟨verdict, answered⟩
        · exact inductionHypothesis later other
  obtain ⟨_, collectedDone, _⟩ := bind_eq_ok done
  exact steps collectedDone member

theorem exists_filterM_eq_ok {test : ι → Except Error Bool} {items : List ι}
    (each : ∀ item ∈ items, ∃ verdict, test item = .ok verdict) :
    ∃ kept, items.filterM test = .ok kept := by
  have steps : ∀ collected, ∃ kept, List.filterAuxM test items collected = .ok kept := by
    induction items with
    | nil => exact fun collected => ⟨collected, rfl⟩
    | cons item rest inductionHypothesis =>
        intro collected
        obtain ⟨verdict, answered⟩ := each item (by simp)
        rw [List.filterAuxM, answered]
        exact inductionHypothesis (fun other member => each other (by simp [member])) _
  obtain ⟨collected, done⟩ := steps []
  refine ⟨collected.reverse, ?_⟩
  rw [List.filterM, done]
  rfl

/-- Where a test answers on some items, a test that agrees with it on related items keeps
related items. -/
theorem exists_filterM_of_forall₂ {R : ι → ρ → Prop} {test : ι → Except Error Bool}
    {other : ρ → Except Error Bool} {items : List ι} {others kept : List ρ}
    (each : List.Forall₂ R items others) (done : others.filterM other = .ok kept)
    (agree : ∀ first second verdict, R first second → other second = .ok verdict →
      test first = .ok verdict) :
    ∃ own, items.filterM test = .ok own ∧ List.Forall₂ R own kept := by
  have steps : ∀ {collected : List ι} {otherCollected kept : List ρ},
      List.Forall₂ R collected otherCollected →
      List.filterAuxM other others otherCollected = .ok kept →
      ∃ own, List.filterAuxM test items collected = .ok own ∧ List.Forall₂ R own kept := by
    clear done
    induction each with
    | nil =>
        intro collected otherCollected kept early done
        cases done
        exact ⟨collected, rfl, early⟩
    | @cons first second _ _ same _ inductionHypothesis =>
        intro collected otherCollected kept early done
        obtain ⟨verdict, answered, later⟩ := bind_eq_ok done
        have answer := agree first second verdict same answered
        have next : List.Forall₂ R (cond verdict (first :: collected) collected)
            (cond verdict (second :: otherCollected) otherCollected) := by
          cases verdict with
          | true => exact .cons same early
          | false => exact early
        obtain ⟨own, ownDone, related⟩ := inductionHypothesis next later
        refine ⟨own, ?_, related⟩
        rw [List.filterAuxM, answer]
        exact ownDone
  obtain ⟨collected, collectedDone, same⟩ := bind_eq_ok done
  cases same
  obtain ⟨own, ownDone, related⟩ := steps .nil collectedDone
  refine ⟨own.reverse, ?_, List.forall₂_reverse_iff.mpr related⟩
  rw [List.filterM, ownDone]
  rfl

/-! ### Outcomes -/

@[simp]
theorem outcome_pure (answer : τ) (state : σ) :
    outcome (pure answer : Attempt σ τ) state = (.ok answer, state) := rfl

@[simp]
theorem outcome_lift (answer : Except Error τ) (state : σ) :
    outcome (liftM answer : Attempt σ τ) state = (answer, state) := rfl

theorem outcome_lift_eq_ok {answer : Except Error τ} {state changed : σ} {middle : τ}
    (done : outcome (liftM answer : Attempt σ τ) state = (.ok middle, changed)) :
    answer = .ok middle ∧ changed = state := by
  rw [outcome_lift] at done
  exact ⟨(Prod.mk.inj done).1, (Prod.mk.inj done).2.symm⟩

@[simp]
theorem outcome_get (state : σ) : outcome (get : Attempt σ σ) state = (.ok state, state) := rfl

@[simp]
theorem outcome_set (state next : σ) :
    outcome (set next : Attempt σ PUnit) state = (.ok ⟨⟩, next) := rfl

@[simp]
theorem outcome_modify (state : σ) (f : σ → σ) :
    outcome (modify f : Attempt σ PUnit) state = (.ok ⟨⟩, f state) := rfl

/-- The second step starts from what the first one leaves, and is left out when the first
one is refused. -/
theorem outcome_bind (step : Attempt σ τ) (next : τ → Attempt σ υ) (state : σ) :
    (step >>= next).outcome state =
      match step.outcome state with
      | (.ok answer, changed) => (next answer).outcome changed
      | (.error reason, changed) => (.error reason, changed) := by
  unfold outcome
  simp only [bind, ExceptT.bind, ExceptT.mk, ExceptT.run, StateT.run, StateT.bind,
    ExceptT.bindCont]
  rcases step state with ⟨reason | answer, changed⟩ <;> rfl

theorem outcome_bind_of_ok {step : Attempt σ τ} {state changed : σ} {answer : τ}
    (done : step.outcome state = (.ok answer, changed)) (next : τ → Attempt σ υ) :
    (step >>= next).outcome state = (next answer).outcome changed := by
  rw [outcome_bind, done]

theorem outcome_bind_eq_ok {step : Attempt σ τ} {next : τ → Attempt σ υ} {state changed : σ}
    {answer : υ} (done : (step >>= next).outcome state = (.ok answer, changed)) :
    ∃ middle between, step.outcome state = (.ok middle, between) ∧
      (next middle).outcome between = (.ok answer, changed) := by
  rw [outcome_bind] at done
  generalize step.outcome state = left at done ⊢
  rcases left with ⟨reason | middle, between⟩
  · cases done
  · exact ⟨middle, between, rfl, done⟩

theorem whole_eq_ok_iff {step : Attempt σ τ} {state changed : σ} {answer : τ} :
    step.whole state = .ok (answer, changed) ↔
      step.outcome state = (.ok answer, changed) := by
  rw [whole]
  generalize step.outcome state = left
  rcases left with ⟨reason | middle, between⟩
  · exact ⟨nofun, nofun⟩
  · simp

theorem whole_of_ok {step : Attempt σ τ} {state changed : σ} {answer : τ}
    (done : step.outcome state = (.ok answer, changed)) :
    step.whole state = .ok (answer, changed) := by
  rw [whole, done]

theorem outcome_ofFunction (f : σ → Except Error (τ × σ)) (state : σ) :
    (ofFunction f).outcome state =
      match f state with
      | .ok (answer, changed) => (.ok answer, changed)
      | .error reason => (.error reason, state) := by
  unfold outcome ofFunction
  simp only [ExceptT.mk, ExceptT.run, StateT.run]
  rcases f state with reason | ⟨answer, changed⟩ <;> rfl

theorem outcome_ofFunction_eq_ok {f : σ → Except Error (τ × σ)} {state changed : σ} {answer : τ}
    (done : (ofFunction f).outcome state = (.ok answer, changed)) :
    f state = .ok (answer, changed) := by
  rw [outcome_ofFunction] at done
  cases result : f state with
  | error reason =>
      rw [result] at done
      cases done
  | ok both =>
      rw [result] at done
      cases done
      rfl

/-- A step that is a function leaves the state as it was when it is refused. -/
theorem outcome_ofFunction_eq_error {f : σ → Except Error (τ × σ)} {state changed : σ}
    {reason : Error} (refused : (ofFunction f).outcome state = (.error reason, changed)) :
    changed = state := by
  rw [outcome_ofFunction] at refused
  cases result : f state with
  | error other =>
      rw [result] at refused
      exact (Prod.mk.inj refused).2.symm
  | ok both =>
      rw [result] at refused
      cases refused

/-- What two steps in a row leave when they are refused is left by the one that was refused. -/
theorem outcome_bind_eq_error {step : Attempt σ τ} {next : τ → Attempt σ υ} {state changed : σ}
    {reason : Error} (refused : (step >>= next).outcome state = (.error reason, changed)) :
    step.outcome state = (.error reason, changed) ∨
      ∃ answer between, step.outcome state = (.ok answer, between) ∧
        (next answer).outcome between = (.error reason, changed) := by
  rw [outcome_bind] at refused
  generalize step.outcome state = left at refused ⊢
  rcases left with ⟨_ | answer, between⟩
  · cases refused
    exact .inl rfl
  · exact .inr ⟨answer, between, rfl, refused⟩

/-- A loop is refused at the first step that is refused, and leaves what that step leaves. -/
theorem outcome_mapM_eq_error {step : ι → Attempt σ τ} {items : List ι} {state changed : σ}
    {reason : Error} (refused : outcome (items.mapM step) state = (.error reason, changed)) :
    ∃ before item rest answers between, items = before ++ item :: rest ∧
      outcome (before.mapM step) state = (.ok answers, between) ∧
      (step item).outcome between = (.error reason, changed) := by
  induction items generalizing state with
  | nil => cases refused
  | cons item rest inductionHypothesis =>
      rw [List.mapM_cons] at refused
      rcases outcome_bind_eq_error refused with stopped | ⟨answer, between, first, others⟩
      · exact ⟨[], item, rest, [], state, rfl, rfl, stopped⟩
      · rcases outcome_bind_eq_error others with later | ⟨_, _, _, impossible⟩
        · obtain ⟨before, culprit, after, answers, reached, rfl, done, stopped⟩ :=
            inductionHypothesis later
          refine ⟨item :: before, culprit, after, answer :: answers, reached, rfl, ?_, stopped⟩
          rw [List.mapM_cons, outcome_bind_of_ok first, outcome_bind_of_ok done]
          rfl
        · cases impossible

/-! ### Properties that steps carry along -/

/-- A step leaves a state with a property behind whenever it starts from one, also when it
is refused. -/
def Preserves (step : Attempt σ τ) (invariant : σ → Prop) : Prop :=
  ∀ state, invariant state → invariant (step.outcome state).2

variable {invariant : σ → Prop}

theorem preserves_pure (answer : τ) : Preserves (pure answer : Attempt σ τ) invariant :=
  fun _ holds => holds

theorem preserves_lift (answer : Except Error τ) :
    Preserves (liftM answer : Attempt σ τ) invariant :=
  fun _ holds => holds

theorem holds_bind {step : Attempt σ τ} {next : τ → Attempt σ υ} {state : σ}
    (first : invariant (step.outcome state).2)
    (second : ∀ answer, (next answer).Preserves invariant) :
    invariant ((step >>= next).outcome state).2 := by
  rw [outcome_bind]
  generalize step.outcome state = left at first
  rcases left with ⟨reason | answer, changed⟩
  · exact first
  · exact second answer changed first

theorem preserves_bind {step : Attempt σ τ} {next : τ → Attempt σ υ}
    (first : step.Preserves invariant) (second : ∀ answer, (next answer).Preserves invariant) :
    Preserves (step >>= next) invariant :=
  fun state holds => holds_bind (first state holds) second

theorem preserves_get : Preserves (get : Attempt σ σ) invariant := fun _ holds => holds

theorem preserves_modify {f : σ → σ} (kept : ∀ state, invariant state → invariant (f state)) :
    Preserves (modify f : Attempt σ PUnit) invariant := kept

theorem preserves_ofFunction {f : σ → Except Error (τ × σ)}
    (kept : ∀ state answer changed, invariant state → f state = .ok (answer, changed) →
      invariant changed) : Preserves (ofFunction f) invariant := by
  intro state holds
  rw [outcome_ofFunction]
  cases done : f state with
  | error reason => exact holds
  | ok both => exact kept state both.1 both.2 holds done

theorem outcome_within (part : σ → ρ) (replace : ρ → σ → σ) (step : Attempt ρ τ) (state : σ) :
    (step.within part replace).outcome state =
      ((step.outcome (part state)).1, replace (step.outcome (part state)).2 state) := rfl

theorem preserves_mapM {step : ι → Attempt σ τ} (each : ∀ item, (step item).Preserves invariant)
    (items : List ι) : Preserves (items.mapM step) invariant := by
  induction items with
  | nil => exact preserves_pure []
  | cons item rest inductionHypothesis =>
      rw [List.mapM_cons]
      exact preserves_bind (each item) fun _ =>
        preserves_bind inductionHypothesis fun _ => preserves_pure _

theorem preserves_forM {step : ι → Attempt σ PUnit} (items : List ι)
    (each : ∀ item ∈ items, (step item).Preserves invariant) :
    Preserves (items.forM step) invariant := by
  induction items with
  | nil => exact preserves_pure _
  | cons item rest inductionHypothesis =>
      change Preserves (step item >>= fun _ => rest.forM step) invariant
      exact preserves_bind (each item (by simp)) fun _ =>
        inductionHypothesis fun other member => each other (by simp [member])

/-- A loop whose steps keep up with the items that they have seen is not refused. -/
theorem exists_outcome_forM {step : ι → Attempt σ PUnit} {items : List ι} {start : σ}
    (reached : List ι → σ → Prop) (begins : reached [] start)
    (each : ∀ done item rest state, items = done ++ item :: rest → reached done state →
      ∃ next, (step item).outcome state = (.ok (), next) ∧ reached (done ++ [item]) next) :
    ∃ finish, Attempt.outcome (items.forM step) start = (.ok (), finish) ∧
      reached items finish := by
  have steps : ∀ done rest state, items = done ++ rest → reached done state →
      ∃ finish, Attempt.outcome (rest.forM step) state = (.ok (), finish) ∧
        reached items finish := by
    intro done rest state split sofar
    induction rest generalizing done state with
    | nil => exact ⟨state, rfl, by rwa [split, List.append_nil]⟩
    | cons item rest inductionHypothesis =>
        obtain ⟨next, first, longer⟩ := each done item rest state split sofar
        obtain ⟨finish, others, whole⟩ :=
          inductionHypothesis (done ++ [item]) next (by rw [split]; simp) longer
        exact ⟨finish, (outcome_bind_of_ok first _).trans others, whole⟩
  exact steps [] items start rfl begins

/-- Steps that are written out one after the other lead where the loop over them leads. -/
theorem outcome_foldr_of_forM {step : ι → Attempt σ PUnit} {items : List ι} {state changed : σ}
    (done : Attempt.outcome (items.forM step) state = (.ok (), changed)) (next : Attempt σ τ) :
    Attempt.outcome (items.foldr (fun item rest => step item >>= fun _ => rest) next) state =
      next.outcome changed := by
  induction items generalizing state with
  | nil =>
      cases done
      rfl
  | cons item rest inductionHypothesis =>
      obtain ⟨_, between, first, others⟩ := outcome_bind_eq_ok done
      exact (outcome_bind_of_ok first _).trans (inductionHypothesis others)

/-- A loop whose steps lead from one state to the next reaches the last state. -/
theorem outcome_forM (step : ι → Attempt σ PUnit) (items : List ι) (reached : List ι → σ)
    (each : ∀ done item rest, items = done ++ item :: rest →
      (step item).outcome (reached done) = (.ok (), reached (done ++ [item]))) :
    Attempt.outcome (items.forM step) (reached []) = (.ok (), reached items) := by
  obtain ⟨finish, done, rfl⟩ := exists_outcome_forM (fun done state => state = reached done) rfl
    fun done item rest state split same => ⟨_, same ▸ each done item rest split, rfl⟩
  exact done

/-- A loop over the places of a list, whose steps lead from one state to the next, reaches the
last state. -/
theorem outcome_forM_range (step : Nat → Attempt σ PUnit) (items : List ι) (reached : List ι → σ)
    (each : ∀ done item rest, items = done ++ item :: rest →
      (step done.length).outcome (reached done) = (.ok (), reached (done ++ [item]))) :
    Attempt.outcome ((List.range items.length).forM step) (reached []) =
      (.ok (), reached items) := by
  have steps : ∀ rest done, items = done ++ rest →
      Attempt.outcome ((List.range' done.length rest.length).forM step) (reached done) =
        (.ok (), reached items) := by
    intro rest
    induction rest with
    | nil =>
        intro done split
        rw [split, List.append_nil]
        rfl
    | cons item rest inductionHypothesis =>
        intro done split
        have later := inductionHypothesis (done ++ [item]) (by rw [split]; simp)
        rw [List.length_append, List.length_singleton] at later
        exact (outcome_bind_of_ok (each done item rest split) _).trans later
  rw [List.range_eq_range']
  exact steps items [] rfl

/-- Loops over related items, whose steps do the same, do the same. -/
theorem outcome_forM_congr {step : ι → Attempt σ PUnit} {other : ρ → Attempt σ PUnit}
    {items : List ι} {others : List ρ} (each : List.Forall₂
      (fun item partner => ∀ state, (step item).outcome state = (other partner).outcome state)
      items others) (state : σ) :
    Attempt.outcome (items.forM step) state = Attempt.outcome (others.forM other) state := by
  induction each generalizing state with
  | nil => rfl
  | @cons item partner rest _ first _ inductionHypothesis =>
      change (step item >>= fun _ => rest.forM step).outcome state =
        (other partner >>= fun _ => List.forM _ other).outcome state
      rw [outcome_bind, outcome_bind, first]
      rcases (other partner).outcome state with ⟨reason | answer, after⟩
      · rfl
      · exact inductionHypothesis after

/-- Two steps in a row are refused by the first one or by the second one. -/
theorem refused_bind {step : Attempt σ τ} {next : τ → Attempt σ υ} {state : σ} {reason : Error}
    (refused : ((step >>= next).outcome state).1 = .error reason) :
    (step.outcome state).1 = .error reason ∨
      ∃ answer changed, step.outcome state = (.ok answer, changed) ∧
        ((next answer).outcome changed).1 = .error reason := by
  rcases outcome_bind_eq_error (Prod.ext refused rfl) with early | ⟨answer, changed, done, late⟩
  · exact .inl (congrArg Prod.fst early)
  · exact .inr ⟨answer, changed, done, congrArg Prod.fst late⟩

/-- A step from a state with a property is never refused for one of the given reasons. -/
def Avoids (step : Attempt σ τ) (invariant : σ → Prop) (refused : Error → Prop) : Prop :=
  ∀ state, invariant state → ∀ reason, (step.outcome state).1 = .error reason → ¬ refused reason

variable {refused : Error → Prop}

theorem avoids_pure (answer : τ) : Avoids (pure answer : Attempt σ τ) invariant refused :=
  fun _ _ _ impossible => nomatch impossible

theorem avoids_bind {step : Attempt σ τ} {next : τ → Attempt σ υ}
    (kept : step.Preserves invariant) (first : step.Avoids invariant refused)
    (second : ∀ answer, (next answer).Avoids invariant refused) :
    Avoids (step >>= next) invariant refused := by
  intro state holds reason refusal
  rcases refused_bind refusal with early | ⟨answer, changed, done, late⟩
  · exact first state holds reason early
  · have between := kept state holds
    rw [done] at between
    exact second answer changed between reason late

theorem avoids_mapM {step : ι → Attempt σ τ} (kept : ∀ item, (step item).Preserves invariant)
    (each : ∀ item, (step item).Avoids invariant refused) (items : List ι) :
    Avoids (items.mapM step) invariant refused := by
  induction items with
  | nil => exact avoids_pure []
  | cons item rest inductionHypothesis =>
      rw [List.mapM_cons]
      exact avoids_bind (kept item) (each item) fun _ =>
        avoids_bind (preserves_mapM kept rest) inductionHypothesis fun _ => avoids_pure _

end Regrid.Attempt
