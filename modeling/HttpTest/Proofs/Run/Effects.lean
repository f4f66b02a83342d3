import HttpTest.Run.Standalone
import HttpTest.Proofs.Run.Evaluation

/-!
# What steps without callbacks do

An effect that sets up a run or builds its request changes the context and cannot fail; a check
reads the response and changes nothing. So a run of such steps with an exchange in between is known
in advance: the context that the exchange finds is `Context.prepared`, the one that it leaves is
`Context.exchanged`, and that is the one in which the run ends (`execute_exchange`).
-/

namespace HttpTest

/-! ## Effects -/

namespace Effect

/-- The phase that an effect is for. A callback may run in any. -/
def phase? : Effect → Option Phase
  | .target _ _ | .baseUrl _ | .transport _ | .description _ => some .setup
  | .body _ | .json _ | .header _ _ => some .send
  | .exchange => some .exchange
  | .check _ => some .expect
  | .custom _ => none

def onRequest : Effect → Request → Request
  | .target method url, request => (request.setMethod method).setUrl url
  | .body value, request => request.setBodyValue value
  | .json value, request => request.setBodyJson value
  | .header name value, request => request.setHeader name value
  | _, request => request

def baseUrl? : Effect → Option String
  | .baseUrl url => some url
  | _ => none

def transport? : Effect → Option Transport
  | .transport installed => some installed
  | _ => none

def description? : Effect → Option String
  | .description text => some text
  | _ => none

def Prepares (effect : Effect) : Prop := effect.phase? = some .setup ∨ effect.phase? = some .send

theorem method_onRequest {effect : Effect} (h : effect.phase? = some .send) (request : Request) :
    (effect.onRequest request).method = request.method := by
  cases effect with
  | body value => cases value <;> rfl
  | json value =>
    simp only [onRequest, Request.setBodyJson]
    split <;> rfl
  | header name value => rfl
  | _ => cases h

theorem baseUrl?_eq_none {effect : Effect} (h : effect.phase? ≠ some .setup) :
    effect.baseUrl? = none := by
  cases effect with
  | baseUrl url => exact absurd rfl h
  | _ => rfl

theorem transport?_eq_none {effect : Effect} (h : effect.phase? ≠ some .setup) :
    effect.transport? = none := by
  cases effect with
  | transport installed => exact absurd rfl h
  | _ => rfl

end Effect

/-! ## Steps -/

namespace Step

def effect? (step : Step) : Option Effect :=
  match step.action with
  | .run effect => some effect
  | _ => none

def Prepares (step : Step) : Prop := ∃ effect, step.action = .run effect ∧ effect.Prepares

/-- The step checks the response. -/
def Checks (step : Step) : Prop := ∃ test, step.action = .run (.check test)

theorem effect?_eq_some_iff {step : Step} {effect : Effect} :
    step.effect? = some effect ↔ step.action = .run effect := by
  unfold effect?
  split
  next other h => rw [h, Option.some.injEq, Action.run.injEq]
  next h => exact ⟨nofun, fun hrun => absurd hrun (h effect)⟩

end Step

def Step.onRequest (step : Step) (request : Request) : Request :=
  match step.effect? with
  | some effect => effect.onRequest request
  | none => request

/-- The request after the effects of some steps, one after the other. -/
def Request.after (request : Request) (steps : List Step) : Request :=
  steps.foldl (fun request step => step.onRequest request) request

theorem Request.after_append (request : Request) (steps later : List Step) :
    request.after (steps ++ later) = (request.after steps).after later :=
  List.foldl_append

/-- What the last of some steps sets that sets it at all. -/
def lastSet? {α : Type} (set? : Effect → Option α) (steps : List Step) : Option α :=
  (steps.filterMap fun step => step.effect?.bind set?).getLast?

theorem lastSet?_cons {α : Type} (set? : Effect → Option α) (step : Step) (steps : List Step) :
    lastSet? set? (step :: steps) = (lastSet? set? steps <|> step.effect?.bind set?) := by
  rw [lastSet?, List.filterMap_cons]
  cases step.effect?.bind set? with
  | none => simp [lastSet?]
  | some value => simp [lastSet?, List.getLast?_cons]

theorem lastSet?_append_of_none {α : Type} {set? : Effect → Option α} {later : List Step}
    (h : ∀ step ∈ later, step.effect?.bind set? = none) (steps : List Step) :
    lastSet? set? (steps ++ later) = lastSet? set? steps := by
  rw [lastSet?, List.filterMap_append, List.filterMap_eq_nil_iff.2 h, List.append_nil]
  rfl

/-- The request with a base address in front of its own, unless its own has a scheme. -/
def Request.under (request : Request) (baseUrl : Option String) : Request :=
  if Url.hasScheme request.url then request
  else request.setUrl (baseUrl.getD "" ++ request.url)

theorem Request.under_eq (request : Request) (baseUrl : Option String) :
    request.under baseUrl
      = { request with
          url := if Url.hasScheme request.url then request.url
            else baseUrl.getD "" ++ request.url } := by
  unfold under setUrl
  split <;> rfl

theorem Request.method_under (request : Request) (baseUrl : Option String) :
    (request.under baseUrl).method = request.method := by
  rw [under_eq]

namespace Context

/-- The context once some steps have set up the run and built its request. -/
def prepared (context : Context) (steps : List Step) : Context :=
  { context with
    request := context.request.after steps
    baseUrl := lastSet? Effect.baseUrl? steps <|> context.baseUrl
    connection := (lastSet? Effect.transport? steps).map .fresh <|> context.connection
    description := lastSet? Effect.description? steps <|> context.description }

/-- What a request is answered: by the installed transport, or else by the network. -/
def reply (context : Context) (request : Request) : Reply :=
  match context.connection with
  | some connection => connection.reply request
  | none => Network.reply context.config.http request

/-- How it ends to hand a request over: the request is kept, and so is the response if there is
one. -/
def handOver (context : Context) (request : Request) : Ended (Except Fault Unit) :=
  .ok
    (match context.reply request with
    | .ok _ => .ok ()
    | .error error => .error (.transport error))
    { context with
      request
      response := (context.reply request).toOption <|> context.response
      connection := context.connection.map (·.after request)
      journal := context.journal ++ (context.connection.map fun _ => Event.request request).toList }

def exchanged (context : Context) (connection : Connection) : Context :=
  let sent := context.request.under context.baseUrl
  { context with
    request := sent
    response := (connection.reply sent).toOption <|> context.response
    connection := some (connection.after sent)
    journal := context.journal ++ [.request sent] }

theorem prepared_nil (context : Context) : context.prepared [] = context := by
  cases context
  rfl

theorem prepared_cons (context : Context) (step : Step) (steps : List Step) :
    context.prepared (step :: steps) = (context.prepared [step]).prepared steps := by
  have hsingle : ∀ {α : Type} (set? : Effect → Option α),
      lastSet? set? [step] = step.effect?.bind set? := by
    intro α set?
    rw [lastSet?_cons]
    cases step.effect?.bind set? <;> rfl
  have hrequest : context.request.after (step :: steps)
      = (context.request.after [step]).after steps := rfl
  simp only [prepared, hrequest, lastSet?_cons _ step steps, hsingle]
  congr 1
  · cases lastSet? Effect.transport? steps <;> cases step.effect?.bind Effect.transport? <;> rfl
  · cases lastSet? Effect.baseUrl? steps <;> cases step.effect?.bind Effect.baseUrl? <;> rfl
  · cases lastSet? Effect.description? steps <;>
      cases step.effect?.bind Effect.description? <;> rfl

theorem leave_prepared_enter (context : Context) (call : String) (steps : List Step) :
    ((context.enter call).prepared steps).leave = context.prepared steps := by
  simp [prepared, enter, leave]

theorem leave_exchanged_enter (context : Context) (call : String) (connection : Connection) :
    ((context.enter call).exchanged connection).leave = context.exchanged connection := by
  simp [exchanged, enter, leave]

theorem resolvedRequest_eq (context : Context) :
    context.resolvedRequest = context.request.under context.baseUrl := by
  unfold resolvedRequest Request.under
  cases context.baseUrl with
  | some baseUrl => rfl
  | none =>
    simp only [Option.getD_none, String.empty_append]
    split <;> rfl

end Context

/-! ## The steps of a run -/

theorem Step.run_perform_of_prepares {step : Step} (h : step.Prepares) (context : Context) :
    step.perform.run context = .ok (.ok ()) (context.prepared [step]) := by
  obtain ⟨effect, haction, hphase⟩ := h
  obtain ⟨phase, path, action⟩ := step
  cases haction
  cases effect with
  | exchange => rcases hphase with h | h <;> cases h
  | check test => rcases hphase with h | h <;> cases h
  | custom callback => rcases hphase with h | h <;> cases h
  | _ => rfl

namespace Attempt

variable {context : Context}

theorem run_exchange_of_no_method (h : context.request.method = none) :
    exchange.run context = .ok (.error noMethod) context := by
  simp [exchange, run_bind, h]

theorem run_exchange (hmethod : context.request.method ≠ none) :
    exchange.run context = context.handOver context.resolvedRequest := by
  have hsome : context.request.method.isNone = false :=
    Option.isNone_eq_false_iff.2 (Option.isSome_iff_ne_none.2 hmethod)
  simp only [exchange, run_bind, run_context, hsome, Bool.false_eq_true, if_false, run_modify,
    Context.handOver, Context.reply]
  cases context.connection with
  | some connection =>
    simp only [run_bind, run_set, run_pure]
    cases connection.reply context.resolvedRequest <;> rfl
  | none =>
    simp only [Option.map_none, Option.toList_none, List.append_nil]
    cases Network.reply context.config.http context.resolvedRequest <;> rfl

theorem run_exchange_of_connection {connection : Connection}
    (hmethod : context.request.method ≠ none) (hconnection : context.connection = some connection) :
    exchange.run context
      = .ok (match connection.reply (context.request.under context.baseUrl) with
          | .ok _ => .ok ()
          | .error error => .error (.transport error)) (context.exchanged connection) := by
  rw [run_exchange hmethod, Context.resolvedRequest_eq, Context.handOver, Context.reply,
    hconnection]
  rfl

theorem run_check (test : Response → Except Fault Unit) :
    (Effect.check test).perform.run context = .ok (context.response?.bind test) context := by
  show (response >>= fun response => ofExcept (test response)).run context = _
  rw [run_bind, run_response]
  cases context.response? with
  | ok response => exact run_ofExcept _ context
  | error fault => rfl

end Attempt

theorem Step.exists_run_perform_of_checks {step : Step} (h : step.Checks) (context : Context) :
    ∃ outcome, step.perform.run context = .ok outcome context := by
  obtain ⟨test, haction⟩ := h
  rw [perform, haction]
  exact ⟨_, Attempt.run_check test⟩

namespace Pipeline

variable {steps : List Step}

theorem execute_of_prepares (h : ∀ step ∈ steps, step.Prepares) (context : Context) :
    execute steps context = .ok (.ok ()) (context.prepared steps) := by
  induction steps generalizing context with
  | nil =>
    rw [Context.prepared_nil]
    rfl
  | cons step steps ih =>
    obtain ⟨hstep, hsteps⟩ := List.forall_mem_cons.1 h
    have hrun := step.run_perform_of_prepares hstep (context.enter step.call)
    rw [execute_cons_of_ok hrun, Context.leave_prepared_enter, ih hsteps,
      ← Context.prepared_cons]

theorem exists_execute_of_checks (h : ∀ step ∈ steps, step.Checks) (context : Context) :
    ∃ outcome, execute steps context = .ok outcome context := by
  induction steps with
  | nil => exact ⟨_, rfl⟩
  | cons step steps ih =>
    obtain ⟨hstep, hsteps⟩ := List.forall_mem_cons.1 h
    obtain ⟨outcome, hrun⟩ := step.exists_run_perform_of_checks hstep (context.enter step.call)
    rw [execute_cons, hrun]
    cases outcome with
    | ok done =>
      simp only [Context.leave_enter]
      exact ih hsteps
    | error cause =>
      cases cause <;> (simp only [Context.leave_enter]; exact ⟨_, rfl⟩)

theorem execute_of_checks_ok {context : Context} {response : Response}
    (hresponse : context.response = some response)
    (h : ∀ step ∈ steps, ∃ test, step.action = .run (.check test) ∧ test response = .ok ()) :
    execute steps context = .ok (.ok ()) context := by
  induction steps with
  | nil => rfl
  | cons step steps ih =>
    obtain ⟨⟨test, haction, htest⟩, hsteps⟩ := List.forall_mem_cons.1 h
    have hopen : (context.enter step.call).response? = .ok response := by
      rw [Context.response?, Context.enter, hresponse]
    have hrun : step.perform.run (context.enter step.call)
        = .ok (.ok ()) (context.enter step.call) := by
      rw [Step.perform, haction, Attempt.run_check, hopen]
      exact congrArg (EStateM.Result.ok · _) htest
    rw [execute_cons_of_ok hrun, Context.leave_enter, ih hsteps]

variable {before checks : List Step} {context : Context} {connection : Connection}

theorem execute_exchange_of_no_method (hbefore : ∀ step ∈ before, step.Prepares)
    (hmethod : (context.request.after before).method = none) :
    execute (before ++ .exchange :: checks) context
      = .ok (.error ((context.prepared before).failure Step.exchange.call Attempt.noMethod))
          (context.prepared before) := by
  have hrun : Step.exchange.perform.run ((context.prepared before).enter Step.exchange.call)
      = .ok (.error Attempt.noMethod) ((context.prepared before).enter Step.exchange.call) :=
    Attempt.run_exchange_of_no_method hmethod
  rw [execute_append_of_ok (execute_of_prepares hbefore context), execute_cons_of_own hrun nofun,
    Context.leave_enter]

/-- With a method one request is handed over. If there is a reply the checks follow, and else the
run ends; in any case it ends in the context that the exchange leaves. -/
theorem execute_exchange (hbefore : ∀ step ∈ before, step.Prepares)
    (hmethod : (context.request.after before).method ≠ none)
    (hconnection : (context.prepared before).connection = some connection) :
    execute (before ++ .exchange :: checks) context
      = match connection.reply ((context.request.after before).under
          (context.prepared before).baseUrl) with
        | .ok _ => execute checks ((context.prepared before).exchanged connection)
        | .error error =>
          .ok (.error (((context.prepared before).exchanged connection).failure
              Step.exchange.call (.transport error)))
            ((context.prepared before).exchanged connection) := by
  let reached := context.prepared before
  have hopen : (reached.enter Step.exchange.call).connection = some connection := hconnection
  have hrun : Step.exchange.perform.run (reached.enter Step.exchange.call) = _ :=
    Attempt.run_exchange_of_connection hmethod hopen
  have hsent : (reached.enter Step.exchange.call).request.under
      (reached.enter Step.exchange.call).baseUrl
        = (context.request.after before).under reached.baseUrl := rfl
  rw [hsent] at hrun
  rw [execute_append_of_ok (execute_of_prepares hbefore context)]
  -- with or without a reply, closing the exchange leaves what the exchange left
  cases hreply : connection.reply ((context.request.after before).under reached.baseUrl) with
  | ok response =>
    rw [hreply] at hrun
    rw [execute_cons_of_ok hrun, Context.leave_exchanged_enter]
  | error error =>
    rw [hreply] at hrun
    rw [execute_cons_of_own hrun nofun, Context.leave_exchanged_enter]

/-- However the checks turn out, the run ends in the context that the exchange leaves, and where
there is no reply it ends with the error of the transport. -/
theorem exists_execute_exchange (hbefore : ∀ step ∈ before, step.Prepares)
    (hchecks : ∀ step ∈ checks, step.Checks)
    (hmethod : (context.request.after before).method ≠ none)
    (hconnection : (context.prepared before).connection = some connection) :
    ∃ outcome, execute (before ++ .exchange :: checks) context
        = .ok outcome ((context.prepared before).exchanged connection) ∧
      ∀ error, connection.reply ((context.request.after before).under
          (context.prepared before).baseUrl) = .error error →
        ∃ failure, outcome = .error failure ∧ failure.cause = .transport error := by
  rw [execute_exchange hbefore hmethod hconnection]
  cases connection.reply ((context.request.after before).under
      (context.prepared before).baseUrl) with
  | ok response =>
    obtain ⟨outcome, hout⟩ :=
      exists_execute_of_checks hchecks ((context.prepared before).exchanged connection)
    exact ⟨outcome, hout, nofun⟩
  | error error =>
    refine ⟨_, rfl, fun other hother => ?_⟩
    cases hother
    exact ⟨_, rfl, rfl⟩

end Pipeline

/-- A check that is run alone, on a response, is done exactly if it holds. -/
theorem Run.doSteps_check_iff {step : Step} {test : Response → Except Fault Unit}
    (hstep : step.action = .run (.check test)) {context : Context} {response : Response}
    (hresponse : context.response = some response) :
    Run.doSteps [step] context = .ok (.ok ()) context ↔ test response = .ok () := by
  have hresolve : Pipeline.resolve [step] = .ok [step] := by
    rw [Pipeline.resolve_of_effects (List.forall_mem_singleton.2 ⟨_, hstep⟩),
      Pipeline.inPhaseOrder_singleton]
  have hopen : (context.enter step.call).response? = .ok response := by
    rw [Context.response?, Context.enter, hresponse]
  have hrun : step.perform.run (context.enter step.call)
      = .ok (test response) (context.enter step.call) := by
    rw [Step.perform, hstep, Attempt.run_check, hopen]
    rfl
  rw [Run.doSteps, Pipeline.run_of_resolve_ok hresolve, Pipeline.execute_cons, hrun]
  cases test response with
  | ok done => exact iff_of_true (congrArg _ (Context.leave_enter context step.call)) rfl
  | error fault =>
    refine iff_of_false ?_ (by intro hok; cases hok)
    cases fault <;> · intro hdone; cases hdone

end HttpTest
