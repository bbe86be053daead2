import Regrid.Proofs.Attempt

/-!
Contract: the kinds of refusal that a computation can end with.

Owns:
- kinds of refusal as a property of a computation;
- how they add up along its steps.

Does not own: which step of the program refuses what.
-/

namespace Regrid

open Attempt

variable {τ υ ι : Type} {kinds more : List ErrorKind}

/-- A computation answers or is refused for a reason of one of the given kinds. -/
def RefusesWith (kinds : List ErrorKind) (step : Except Error τ) : Prop :=
  ∀ reason, step = .error reason → reason.kind ∈ kinds

theorem refusesWith_ok (answer : τ) : RefusesWith kinds (.ok answer : Except Error τ) := nofun

theorem refusesWith_error {reason : Error} (listed : reason.kind ∈ kinds) :
    RefusesWith kinds (.error reason : Except Error τ) := by
  intro other same
  cases same
  exact listed

theorem RefusesWith.mono {step : Except Error τ} (refuses : RefusesWith kinds step)
    (subset : kinds ⊆ more) : RefusesWith more step :=
  fun reason refused => subset (refuses reason refused)

theorem bind_eq_error_iff {first : Except Error τ} {next : τ → Except Error υ} {reason : Error} :
    first >>= next = .error reason ↔
      first = .error reason ∨ ∃ middle, first = .ok middle ∧ next middle = .error reason := by
  cases first with
  | error other => simp [bind, Except.bind]
  | ok middle => simp [bind, Except.bind]

theorem refusesWith_bind {first : Except Error τ} {next : τ → Except Error υ}
    (early : RefusesWith kinds first) (late : ∀ middle, RefusesWith kinds (next middle)) :
    RefusesWith kinds (first >>= next) := by
  intro reason refused
  rcases bind_eq_error_iff.mp refused with first | ⟨middle, _, second⟩
  · exact early reason first
  · exact late middle reason second

/-- A computation that first refuses in some cases. -/
theorem refusesWith_refuse {refused : Prop} [Decidable refused] {reason : Error}
    {next : PUnit → Except Error τ} {rest : Except Error τ} (listed : reason.kind ∈ kinds)
    (late : RefusesWith kinds rest) :
    RefusesWith kinds (if refused then throw reason >>= next else rest) := by
  split
  · exact refusesWith_error listed
  · exact late

theorem refusesWith_foldlM {step : τ → ι → Except Error τ} (items : List ι)
    (each : ∀ state item, RefusesWith kinds (step state item)) (start : τ) :
    RefusesWith kinds (items.foldlM step start) := by
  induction items generalizing start with
  | nil => exact refusesWith_ok start
  | cons item rest inductionHypothesis =>
      rw [List.foldlM_cons]
      exact refusesWith_bind (each start item) fun next => inductionHypothesis next

theorem refusesWith_mapM {step : ι → Except Error τ} {items : List ι}
    (each : ∀ item ∈ items, RefusesWith kinds (step item)) :
    RefusesWith kinds (items.mapM step) := by
  induction items with
  | nil => exact refusesWith_ok []
  | cons item rest inductionHypothesis =>
      rw [List.mapM_cons]
      have later := inductionHypothesis fun other member => each other (by simp [member])
      exact refusesWith_bind (each item (by simp)) fun _ =>
        refusesWith_bind later fun _ => refusesWith_ok _

end Regrid
