import HttpTest.Run.Pipeline
import HttpTest.Proofs.Pipeline.Resolution

/-!
# Runs, evaluated at a context

A computation on the context is a function of it. These equations say what the parts of a run give
at a context, case by case, so that nothing later has to open the monads.
-/

namespace HttpTest

namespace Attempt

theorem run_bind {α β : Type} (attempt : Attempt α) (next : α → Attempt β) (context : Context) :
    (attempt >>= next).run context =
      match attempt.run context with
      | .ok (.ok value) after => (next value).run after
      | .ok (.error fault) after => .ok (.error fault) after
      | .error reason after => .error reason after := by
  show EStateM.bind attempt _ context = _
  unfold EStateM.bind
  show _ = match attempt context with
    | .ok (.ok value) after => (next value).run after
    | .ok (.error fault) after => .ok (.error fault) after
    | .error reason after => .error reason after
  cases attempt context with
  | ok outcome after => cases outcome <;> rfl
  | error reason after => rfl

theorem run_lift {α : Type} (run : Run α) (context : Context) :
    (ExceptT.lift run : Attempt α).run context =
      match run context with
      | .ok value after => .ok (.ok value) after
      | .error reason after => .error reason after := by
  show EStateM.map Except.ok run context = _
  unfold EStateM.map
  cases run context <;> rfl

@[simp] theorem run_pure {α : Type} (value : α) (context : Context) :
    (pure value : Attempt α).run context = .ok (.ok value) context := rfl

@[simp] theorem run_fail {α : Type} (fault : Fault) (context : Context) :
    (fail fault : Attempt α).run context = .ok (.error fault) context := rfl

@[simp] theorem run_context (context : Context) :
    Attempt.context.run context = .ok (.ok context) context := rfl

@[simp] theorem run_modify (change : Context → Context) (context : Context) :
    (modify change : Attempt PUnit).run context = .ok (.ok ()) (change context) := rfl

@[simp] theorem run_set (other context : Context) :
    (set other : Attempt PUnit).run context = .ok (.ok ()) other := rfl

theorem run_ofExcept {α : Type} (result : Except Fault α) (context : Context) :
    (ofExcept result).run context = .ok result context := by
  cases result <;> rfl

theorem run_response (context : Context) :
    response.run context = .ok context.response? context := by
  rw [response, run_bind, run_context]
  exact run_ofExcept _ context

/-- An exchange ends without a panic, changes the request, the response, the connection and the
journal alone, and fails with a fault that is not the failure of a run. -/
theorem exists_run_exchange_eq (context : Context) :
    ∃ outcome request response connection journal,
      exchange.run context = .ok outcome { context with request, response, connection, journal } ∧
        ∀ failure, outcome ≠ .error (.nested failure) := by
  unfold exchange
  cases hmethod : context.request.method.isNone with
  | true =>
    refine ⟨.error noMethod, context.request, context.response, context.connection,
      context.journal, ?_, nofun⟩
    simp only [run_bind, run_context, hmethod, if_true, run_fail]
  | false =>
    simp only [run_bind, run_context, hmethod, Bool.false_eq_true, if_false, run_modify]
    -- the reply comes from the network or from the installed transport
    cases hconnection : context.connection with
    | none =>
      simp only
      cases Network.reply context.config.http context.resolvedRequest with
      | ok response => exact ⟨_, _, _, _, _, rfl, nofun⟩
      | error error => exact ⟨_, _, _, _, _, rfl, nofun⟩
    | some connection =>
      simp only [run_bind, run_set, run_pure]
      cases connection.reply context.resolvedRequest with
      | ok response => exact ⟨_, _, _, _, _, rfl, nofun⟩
      | error error => exact ⟨_, _, _, _, _, rfl, nofun⟩

theorem exists_run_exchange (context : Context) :
    ∃ outcome after, exchange.run context = .ok outcome after ∧ after.frames = context.frames ∧
      ∀ failure, outcome ≠ .error (.nested failure) := by
  obtain ⟨outcome, request, response, connection, journal, hrun, hown⟩ :=
    exists_run_exchange_eq context
  exact ⟨outcome, _, hrun, rfl, hown⟩

end Attempt

namespace Run

/-- Steps that must not fail: their failure becomes a panic, at the context they left. -/
theorem mustDo_apply (steps : List Step) (context : Context) :
    mustDo steps context =
      match doSteps steps context with
      | .ok (.ok ()) after => .ok () after
      | .ok (.error failure) after => .error ⟨failure.message⟩ after
      | .error reason after => .error reason after := by
  show EStateM.bind (doSteps steps) _ context = _
  unfold EStateM.bind
  cases doSteps steps context with
  | ok outcome after => cases outcome <;> rfl
  | error reason after => rfl

end Run

namespace Pipeline

variable {step : Step} {steps : List Step} {context after : Context}

theorem execute_cons (step : Step) (steps : List Step) (context : Context) :
    execute (step :: steps) context =
      match step.perform.run (context.enter step.call) with
      | .ok (.ok ()) after => execute steps after.leave
      | .ok (.error (.nested failure)) after => .ok (.error failure) after.leave
      | .ok (.error cause) after => .ok (.error (after.leave.failure step.call cause)) after.leave
      | .error reason after => .error reason after := by
  show EStateM.bind (step.perform.run) _ (context.enter step.call) = _
  unfold EStateM.bind
  cases step.perform.run (context.enter step.call) with
  | error reason after => rfl
  | ok outcome after =>
    cases outcome with
    | ok done => rfl
    | error cause => cases cause <;> rfl

theorem execute_cons_of_ok
    (h : step.perform.run (context.enter step.call) = .ok (.ok ()) after) :
    execute (step :: steps) context = execute steps after.leave := by
  rw [execute_cons, h]

theorem execute_cons_of_nested {failure : Failure}
    (h : step.perform.run (context.enter step.call) = .ok (.error (.nested failure)) after) :
    execute (step :: steps) context = .ok (.error failure) after.leave := by
  rw [execute_cons, h]

theorem execute_cons_of_own {cause : Fault}
    (h : step.perform.run (context.enter step.call) = .ok (.error cause) after)
    (hown : ∀ failure, cause ≠ .nested failure) :
    execute (step :: steps) context
      = .ok (.error (after.leave.failure step.call cause)) after.leave := by
  rw [execute_cons, h]
  cases cause with
  | nested failure => exact absurd rfl (hown failure)
  | _ => rfl

/-- A panic leaves the steps open that were open when it came. -/
theorem execute_cons_of_panic {reason : Panic}
    (h : step.perform.run (context.enter step.call) = .error reason after) :
    execute (step :: steps) context = .error reason after := by
  rw [execute_cons, h]

/-- All that can become of the first of some steps. -/
theorem execute_cons_cases (step : Step) (steps : List Step) (context : Context) :
    (∃ after, step.perform.run (context.enter step.call) = .ok (.ok ()) after ∧
      execute (step :: steps) context = execute steps after.leave) ∨
    (∃ failure after, step.perform.run (context.enter step.call)
        = .ok (.error (.nested failure)) after ∧
      execute (step :: steps) context = .ok (.error failure) after.leave) ∨
    (∃ cause after, step.perform.run (context.enter step.call) = .ok (.error cause) after ∧
      (∀ failure, cause ≠ .nested failure) ∧
      execute (step :: steps) context
        = .ok (.error (after.leave.failure step.call cause)) after.leave) ∨
    (∃ reason after, step.perform.run (context.enter step.call) = .error reason after ∧
      execute (step :: steps) context = .error reason after) := by
  cases h : step.perform.run (context.enter step.call) with
  | error reason after => exact .inr (.inr (.inr ⟨reason, after, rfl, execute_cons_of_panic h⟩))
  | ok outcome after =>
    cases outcome with
    | ok done => exact .inl ⟨after, rfl, execute_cons_of_ok h⟩
    | error cause =>
      by_cases hnested : ∃ failure, cause = .nested failure
      · obtain ⟨failure, rfl⟩ := hnested
        exact .inr (.inl ⟨failure, after, rfl, execute_cons_of_nested h⟩)
      · have hown : ∀ failure, cause ≠ .nested failure := fun failure hc => hnested ⟨failure, hc⟩
        exact .inr (.inr (.inl ⟨cause, after, rfl, hown, execute_cons_of_own h hown⟩))

/-- The steps behind others run in the context that those leave, if they are all done. -/
theorem execute_append_of_ok {before rest : List Step} {reached : Context}
    (h : execute before context = .ok (.ok ()) reached) :
    execute (before ++ rest) context = execute rest reached := by
  induction before generalizing context with
  | nil =>
    cases h
    rfl
  | cons step before ih =>
    rcases execute_cons_cases step before context with
      ⟨left, hstep, heq⟩ | ⟨_, _, _, heq⟩ | ⟨_, _, _, _, heq⟩ | ⟨_, _, _, heq⟩
    · rw [heq] at h
      rw [List.cons_append, execute_cons_of_ok hstep]
      exact ih h
    -- a run that fails or panics at the first step is not done
    all_goals
      rw [heq] at h
      cases h

/-- Nothing runs behind steps that are not all done. -/
theorem execute_append_of_not_done {before rest : List Step}
    (h : ∀ reached, execute before context ≠ .ok (.ok ()) reached) :
    execute (before ++ rest) context = execute before context := by
  induction before generalizing context with
  | nil => exact absurd rfl (h context)
  | cons step before ih =>
    rw [List.cons_append]
    rcases execute_cons_cases step before context with
      ⟨left, hstep, heq⟩ | ⟨_, _, hstep, heq⟩ | ⟨_, _, hstep, hown, heq⟩ | ⟨_, _, hstep, heq⟩ <;>
      rw [heq] at h ⊢
    · rw [execute_cons_of_ok hstep]
      exact ih h
    · exact execute_cons_of_nested hstep
    · exact execute_cons_of_own hstep hown
    · exact execute_cons_of_panic hstep

/-- A panic of steps comes from one of them, when the ones before it are done. -/
theorem exists_of_execute_eq_panic {reason : Panic}
    (h : execute steps context = .error reason after) :
    ∃ before step rest reached, steps = before ++ step :: rest ∧
      execute before context = .ok (.ok ()) reached ∧
      step.perform.run (reached.enter step.call) = .error reason after := by
  -- either the first step panics, or it is done and the panic comes from the steps behind it
  induction steps generalizing context with
  | nil => cases h
  | cons step steps ih =>
    rcases execute_cons_cases step steps context with
      ⟨left, hstep, heq⟩ | ⟨_, _, _, heq⟩ | ⟨_, _, _, _, heq⟩ | ⟨_, _, hstep, heq⟩ <;>
      rw [heq] at h
    · obtain ⟨before, other, rest, reached, rfl, hbefore, hother⟩ := ih h
      refine ⟨step :: before, other, rest, reached, rfl, ?_, hother⟩
      rw [execute_cons_of_ok hstep]
      exact hbefore
    · cases h
    · cases h
    · cases h
      exact ⟨[], step, steps, context, rfl, rfl, hstep⟩

theorem run_of_resolve_error {cause : Fault} (h : resolve steps = .error (step, cause))
    (context : Context) :
    run steps context = .ok (.error (context.failure step.call cause)) context := by
  rw [run, h]
  rfl

theorem run_of_resolve_ok {resolved : List Step} (h : resolve steps = .ok resolved)
    (context : Context) : run steps context = execute resolved context := by
  rw [run, h]

theorem mem_of_mem_resolve {resolved : List Step} (h : resolve steps = .ok resolved)
    (hstep : step ∈ resolved) : step ∈ steps := by
  cases herror : usageError? steps with
  | some error =>
    rw [resolve, herror] at h
    cases h
  | none =>
    rw [resolve_of_usageError?_eq_none herror] at h
    cases h
    exact mem_of_mem_survivors (mem_inPhaseOrder.1 hstep)

theorem own_of_resolve_error {cause : Fault} (h : resolve steps = .error (step, cause)) :
    ∃ message, cause = .usage message := by
  rcases usageError?_cases steps with ⟨hnone, _⟩ | ⟨_, _, _, message, _, _, _, herror⟩
  · rw [resolve_of_usageError?_eq_none hnone] at h
    cases h
  · rw [resolve, herror] at h
    cases h
    exact ⟨message, rfl⟩

end Pipeline

end HttpTest
