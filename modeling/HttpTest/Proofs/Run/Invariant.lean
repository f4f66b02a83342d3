import HttpTest.Run.Standalone
import HttpTest.Proofs.Run.Frames

/-!
# Invariants of runs

An invariant says what holds of the context between any two operations of a run, of every failure
that the run reports and of every panic it ends with. A run keeps it if each of its callbacks does
(`RunInvariant.run`), however it ends and whatever is resolved to run.
-/

namespace HttpTest

open Pipeline

/-- What holds of the context between the operations of a run, of the failures that it reports and
of the panics that it ends with. Opening and closing a step do not matter, and what fails where the
invariant holds is reported as it says. -/
structure RunInvariant where
  Holds : Context → Prop
  Reported : Failure → Prop
  Panicked : Panic → Prop
  enter : ∀ {context : Context} (call : String), Holds context → Holds (context.enter call)
  leave : ∀ {context : Context}, Holds context → Holds context.leave
  failure : ∀ {context : Context} (call : String) (cause : Fault), Holds context →
    Reported (context.failure call cause)

namespace RunInvariant

variable (inv : RunInvariant)

/-- How a callback may end: where the invariant holds, with no failure of a run but one that may be
reported, or with a panic. -/
def Ends : Ended (Except Fault Unit) → Prop
  | .ok outcome after =>
    inv.Holds after ∧ ∀ failure, outcome = .error (.nested failure) → inv.Reported failure
  | .error reason _ => inv.Panicked reason

def EndsRun : Ended (Except Failure Unit) → Prop
  | .ok outcome after =>
    inv.Holds after ∧ ∀ failure, outcome = .error failure → inv.Reported failure
  | .error reason _ => inv.Panicked reason

/-- A callback that starts where the invariant holds ends as it may. -/
def Kept (callback : Callback) : Prop :=
  ∀ context, inv.Holds context → inv.Ends (callback.run context)

variable {inv}

theorem kept_pure : inv.Kept (pure ()) := fun _ hcontext => ⟨hcontext, nofun⟩

theorem kept_fail {fault : Fault} (h : ∀ failure, fault = .nested failure → inv.Reported failure) :
    inv.Kept (Attempt.fail fault) := by
  refine fun context hcontext => ⟨hcontext, fun failure hfailure => h failure ?_⟩
  cases hfailure
  rfl

theorem kept_fail_own {fault : Fault} (h : fault.isNested = false) :
    inv.Kept (Attempt.fail fault) :=
  kept_fail fun failure hfailure => absurd hfailure (Fault.isNested_eq_false_iff.1 h failure)

theorem kept_check {test : Response → Except Fault Unit} (h : (Effect.check test).IsBuiltIn) :
    inv.Kept (Effect.check test).perform := by
  intro context hcontext
  obtain ⟨outcome, hrun, hown⟩ := Effect.exists_run_check h context
  rw [hrun]
  exact ⟨hcontext, fun failure hfailure => absurd hfailure (hown failure)⟩

/-- Steps run one after the other until one fails. -/
theorem execute {steps : List Step} (h : ∀ step ∈ steps, inv.Kept step.perform)
    {context : Context} (hcontext : inv.Holds context) :
    inv.EndsRun (Pipeline.execute steps context) := by
  induction steps generalizing context with
  | nil => exact ⟨hcontext, nofun⟩
  | cons step steps ih =>
    obtain ⟨hstep, hsteps⟩ := List.forall_mem_cons.1 h
    -- the step starts with its call among the frames, and is closed before its end is looked at
    have hends := hstep _ (inv.enter step.call hcontext)
    rcases execute_cons_cases step steps context with
      ⟨left, hperform, heq⟩ | ⟨failure, left, hperform, heq⟩ | ⟨cause, left, hperform, _, heq⟩ |
      ⟨reason, left, hperform, heq⟩ <;> rw [hperform] at hends <;> rw [heq]
    · exact ih hsteps (inv.leave hends.1)
    · refine ⟨inv.leave hends.1, fun other hother => ?_⟩
      cases hother
      exact hends.2 failure rfl
    · refine ⟨inv.leave hends.1, fun other hother => ?_⟩
      cases hother
      exact inv.failure step.call cause (inv.leave hends.1)
    · exact hends

theorem run {steps : List Step} (h : ∀ step ∈ steps, inv.Kept step.perform) {context : Context}
    (hcontext : inv.Holds context) : inv.EndsRun (Pipeline.run steps context) := by
  cases hresolve : resolve steps with
  | ok resolved =>
    rw [run_of_resolve_ok hresolve]
    exact execute (fun step hstep => h step (mem_of_mem_resolve hresolve hstep)) hcontext
  | error error =>
    obtain ⟨step, cause⟩ := error
    rw [run_of_resolve_error hresolve]
    refine ⟨hcontext, fun failure hfailure => ?_⟩
    cases hfailure
    exact inv.failure step.call cause hcontext

/-- A top-level run keeps an invariant that an exchange keeps. -/
theorem start (kind : RunKind) {steps : List Step} (h : ∀ step ∈ steps, inv.Kept step.perform)
    (hexchange : inv.Kept Attempt.exchange) {context : Context} (hcontext : inv.Holds context) :
    inv.EndsRun (kind.start steps context) := by
  cases kind with
  | doSteps => exact run h hcontext
  | topLevel =>
    refine run (fun step hstep => ?_) hcontext
    rcases List.mem_append.1 hstep with hin | hlast
    · exact h step hin
    · rw [List.mem_singleton.1 hlast]
      exact hexchange

end RunInvariant

end HttpTest
