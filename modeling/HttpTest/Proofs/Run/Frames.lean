import HttpTest.Proofs.Run.Program

/-!
# Open steps

A run opens its steps on the frames of the context it was given and closes each one before it looks
at how the step ended. `RestoresFrames` is what every callback keeps, and through it every run
inside the callback: built-in steps do (`Step.IsBuiltIn.restoresFrames`), a run of steps that do
does (`frames_of_run`), and so does every program (`Program.restoresFrames`).
-/

namespace HttpTest

open Pipeline

/-! ## Frames are given back -/

/-- A callback that ends leaves the frames as they were, and does not pass on a failure whose cause
is itself the failure of a run. -/
def RestoresFrames (callback : Callback) : Prop :=
  ∀ context outcome after, callback.run context = .ok outcome after →
    after.frames = context.frames ∧
      ∀ failure, outcome = .error (.nested failure) → failure.cause.isNested = false

theorem restoresFrames_pure : RestoresFrames (pure ()) := by
  intro context outcome after h
  cases h
  exact ⟨rfl, nofun⟩

theorem restoresFrames_fail {fault : Fault} (h : fault.isNested = false) :
    RestoresFrames (Attempt.fail fault) := by
  intro context outcome after hrun
  cases hrun
  refine ⟨rfl, fun failure hfailure => ?_⟩
  cases hfailure
  cases h

theorem restoresFrames_exchange : RestoresFrames Attempt.exchange := by
  intro context outcome after h
  obtain ⟨outcome', after', hrun, hframes, hown⟩ := Attempt.exists_run_exchange context
  rw [hrun] at h
  cases h
  exact ⟨hframes, fun failure hfailure => absurd hfailure (hown failure)⟩

theorem restoresFrames_check {test : Response → Except Fault Unit}
    (h : ∀ response fault, test response = .error fault → fault.isNested = false) :
    RestoresFrames (Effect.check test).perform := by
  intro context outcome after hrun
  obtain ⟨other, hcheck, hown⟩ := Effect.exists_run_check h context
  rw [hcheck] at hrun
  cases hrun
  exact ⟨rfl, fun failure hfailure => absurd hfailure (hown failure)⟩

theorem Effect.IsBuiltIn.restoresFrames {effect : Effect} (h : effect.IsBuiltIn) :
    RestoresFrames effect.perform := by
  cases effect with
  | exchange => exact restoresFrames_exchange
  | check test => exact restoresFrames_check h
  | custom callback => exact h.elim
  | _ =>
    intro context outcome after hrun
    cases hrun
    exact ⟨rfl, nofun⟩

theorem Step.IsBuiltIn.restoresFrames {step : Step} (h : step.IsBuiltIn) :
    RestoresFrames step.perform := by
  unfold Step.perform
  split
  next effect heffect => exact (h effect heffect).restoresFrames
  next message _ => exact restoresFrames_fail rfl
  next => exact restoresFrames_pure

/-- Steps whose callbacks restore the frames restore them together, however they end. -/
theorem frames_of_execute {steps : List Step} (h : ∀ step ∈ steps, RestoresFrames step.perform)
    {context after : Context} {outcome : Except Failure Unit}
    (hrun : execute steps context = .ok outcome after) :
    after.frames = context.frames ∧
      ∀ failure, outcome = .error failure → failure.cause.isNested = false := by
  induction steps generalizing context with
  | nil =>
    cases hrun
    exact ⟨rfl, nofun⟩
  | cons step steps ih =>
    have hstep := h step List.mem_cons_self (context.enter step.call)
    -- closing the step takes off the frame that opening it put on
    have hleave : ∀ left : Context, left.frames = (context.enter step.call).frames →
        left.leave.frames = context.frames := by
      intro left hleft
      rw [Context.leave, hleft]
      exact List.dropLast_concat
    rcases execute_cons_cases step steps context with
      ⟨left, hperform, heq⟩ | ⟨failure, left, hperform, heq⟩ | ⟨cause, left, hperform, hown, heq⟩ |
      ⟨reason, left, hperform, heq⟩ <;> rw [heq] at hrun
    · have hrest : ∀ other ∈ steps, RestoresFrames other.perform := fun other hother =>
        h other (List.mem_cons_of_mem _ hother)
      obtain ⟨hframes, hcause⟩ := ih hrest hrun
      exact ⟨hframes.trans (hleave left (hstep _ _ hperform).1), hcause⟩
    · cases hrun
      refine ⟨hleave left (hstep _ _ hperform).1, fun other hother => ?_⟩
      cases hother
      exact (hstep _ _ hperform).2 failure rfl
    · cases hrun
      refine ⟨hleave left (hstep _ _ hperform).1, fun other hother => ?_⟩
      cases hother
      exact Fault.isNested_eq_false_iff.2 hown
    · cases hrun

theorem frames_of_run {steps : List Step} (h : ∀ step ∈ steps, RestoresFrames step.perform)
    {context after : Context} {outcome : Except Failure Unit}
    (hrun : Pipeline.run steps context = .ok outcome after) :
    after.frames = context.frames ∧
      ∀ failure, outcome = .error failure → failure.cause.isNested = false := by
  cases hresolve : resolve steps with
  | ok resolved =>
    rw [run_of_resolve_ok hresolve] at hrun
    exact frames_of_execute (fun step hstep => h step (mem_of_mem_resolve hresolve hstep)) hrun
  | error error =>
    obtain ⟨step, cause⟩ := error
    rw [run_of_resolve_error hresolve] at hrun
    cases hrun
    refine ⟨rfl, fun failure hfailure => ?_⟩
    obtain ⟨message, rfl⟩ := own_of_resolve_error hresolve
    cases hfailure
    rfl

theorem Step.exchange_isBuiltIn : Step.exchange.IsBuiltIn := by
  intro effect heffect
  cases heffect
  trivial

theorem frames_of_start {kind : RunKind} {steps : List Step}
    (h : ∀ step ∈ steps, RestoresFrames step.perform) {context after : Context}
    {outcome : Except Failure Unit} (hrun : kind.start steps context = .ok outcome after) :
    after.frames = context.frames ∧
      ∀ failure, outcome = .error failure → failure.cause.isNested = false := by
  cases kind with
  | doSteps => exact frames_of_run h hrun
  | topLevel =>
    -- the exchange behind the steps is a step like any other
    refine frames_of_run (fun step hstep => ?_) hrun
    rcases List.mem_append.1 hstep with hin | hexchange
    · exact h step hin
    · rw [List.mem_singleton.1 hexchange]
      exact Step.exchange_isBuiltIn.restoresFrames

/-- Failures whose causes are no failures of runs. -/
def OwnCauses (held : List Failure) : Prop := ∀ failure ∈ held, failure.cause.isNested = false

theorem OwnCauses.cons {failure : Failure} {held : List Failure} (h : OwnCauses held)
    (hfailure : failure.cause.isNested = false) : OwnCauses (failure :: held) :=
  List.forall_mem_cons.2 ⟨hfailure, h⟩

mutual

theorem Program.restoresFrames : ∀ (program : Program) {held : List Failure}, OwnCauses held →
    RestoresFrames (program.callback held)
  | .finish, _, _ => restoresFrames_pure
  | .fail _ own, _, _ => restoresFrames_fail own
  | .raise index, held, h => by
    rw [Program.callback]
    cases hindex : held[index]? with
    | none => exact restoresFrames_pure
    | some failure =>
      -- the only nested fault a program can end with is one that was handed to it
      intro context outcome after hrun
      cases hrun
      refine ⟨rfl, fun other hother => ?_⟩
      cases hother
      exact h failure (List.mem_of_getElem? hindex)
  | .panic _, _, _ => by
    intro context outcome after hrun
    cases hrun
  | .look next, _, h => by
    intro context outcome after hrun
    exact (next context).restoresFrames h context outcome after hrun
  | .set setting next, _, h => by
    intro context outcome after hrun
    rw [Program.run_callback_set] at hrun
    have hnext := next.restoresFrames h _ _ _ hrun
    rwa [setting.frames_apply] at hnext
  | .exchange next, _, h => by
    intro context outcome after hrun
    rw [Program.run_callback_exchange] at hrun
    obtain ⟨reply, left, hexchange, hframes, _⟩ := Attempt.exists_run_exchange context
    rw [hexchange] at hrun
    have hnext := (next reply).restoresFrames h _ _ _ hrun
    rwa [hframes] at hnext
  | .run kind steps done failed, held, h => by
    intro context outcome after hrun
    rw [Program.run_callback_run] at hrun
    have hsteps := declaredSteps_restoresFrames steps h
    cases hstart : kind.start (declaredSteps steps held) context with
    | error reason left =>
      rw [hstart] at hrun
      cases hrun
    | ok result left =>
      obtain ⟨hframes, hcause⟩ := frames_of_start hsteps hstart
      rw [hstart] at hrun
      cases result with
      | ok succeeded =>
        have hnext := done.restoresFrames h _ _ _ hrun
        rwa [hframes] at hnext
      | error failure =>
        -- the program is handed a failure whose cause is no failure of a run
        have hnext := (failed failure).restoresFrames (h.cons (hcause failure rfl)) _ _ _ hrun
        rwa [hframes] at hnext
  | .mustDo steps next, held, h => by
    intro context outcome after hrun
    rw [Program.run_callback_mustDo] at hrun
    have hsteps := declaredSteps_restoresFrames steps h
    cases hstart : Run.doSteps (declaredSteps steps held) context with
    | error reason left =>
      rw [hstart] at hrun
      cases hrun
    | ok result left =>
      obtain ⟨hframes, _⟩ := frames_of_run hsteps hstart
      rw [hstart] at hrun
      cases result with
      | error failure => cases hrun
      | ok succeeded =>
        have hnext := next.restoresFrames h _ _ _ hrun
        rwa [hframes] at hnext

theorem Declaration.restoresFrames : ∀ (declaration : Declaration) {held : List Failure},
    OwnCauses held → RestoresFrames (declaration.step held).perform
  | .builtIn _ builtIn, _, _ => builtIn.restoresFrames
  | .custom _ _ program, _, h => program.restoresFrames h

theorem declaredSteps_restoresFrames : ∀ (declarations : List Declaration) {held : List Failure},
    OwnCauses held → ∀ step ∈ declaredSteps declarations held, RestoresFrames step.perform
  | [], _, _ => nofun
  | declaration :: declarations, _, h => by
    intro step hstep
    rw [declaredSteps] at hstep
    rcases List.mem_cons.1 hstep with rfl | hrest
    · exact declaration.restoresFrames h
    · exact declaredSteps_restoresFrames declarations h step hrest

end

end HttpTest
