import HttpTest.Proofs.Chain.Mirror
import HttpTest.Proofs.Pipeline.Exchange
import HttpTest.Proofs.Run.Effects

/-!
# The request of a run

A run without callbacks hands over one request, or none if it is misused or has no method. Which
request that is follows from the steps that set up the run and build the request: no clear chain
removes the former, and no expectation has a part in it.
-/

namespace HttpTest

open Pipeline

/-! ## Steps without callbacks -/

def SetupCall.takesCallback : SetupCall → Bool
  | .cleanup _ => true
  | _ => false

def SendChain.takesCallback {place : SendPlace} : SendChain place → Bool
  | .custom _ _ => true
  | _ => false

def ExpectChain.takesCallback {place : ExpectPlace} : ExpectChain place → Bool
  | .custom _ _ => true
  | _ => false

/-- The step is declared without a callback. -/
inductive Step.WithoutCallback : Step → Prop where
  | setup {call : SetupCall} (h : call.takesCallback = false) : WithoutCallback call.step
  | send {place : SendPlace} {chain : SendChain place} (h : chain.takesCallback = false) :
      WithoutCallback chain.step
  | expect {place : ExpectPlace} {chain : ExpectChain place} (h : chain.takesCallback = false) :
      WithoutCallback chain.step
  | clear {place : ClearPlace} (chain : ClearChain place) : WithoutCallback chain.step

/-- The step, if it is one to run, has an effect that is for its phase. -/
def Step.FitsPhase (step : Step) : Prop :=
  ∀ effect, step.action = .run effect →
    effect.phase? = some step.phase ∧ step.phase ∈ [.setup, .send, .expect]

namespace Stage

variable (stage : Stage) {phase : Phase}

theorem fitsPhase_step {effect : Effect} (h : effect.phase? = some phase)
    (hphase : phase ∈ [.setup, .send, .expect]) : (stage.step phase effect).FitsPhase := by
  intro other hother
  unfold step stepWith at hother ⊢
  split at hother
  · cases hother
  · cases hother
    exact ⟨h, hphase⟩

theorem fitsPhase_fail (misuse : Misuse) : (stage.fail phase misuse).FitsPhase := by
  intro other hother
  unfold fail stepWith at hother
  split at hother <;> cases hother

theorem fitsPhase_clearStep : stage.clearStep.FitsPhase := by
  intro other hother
  unfold clearStep stepWith at hother
  split at hother <;> cases hother

end Stage

theorem SendChain.fitsPhase_step {place : SendPlace} (chain : SendChain place)
    (h : chain.takesCallback = false) : chain.step.FitsPhase := by
  cases chain with
  | send | body root => exact Stage.fitsPhase_fail _ _
  | custom root callback => cases h
  | _ => exact Stage.fitsPhase_step _ rfl (by decide)

theorem ExpectChain.fitsPhase_step {place : ExpectPlace} (chain : ExpectChain place)
    (h : chain.takesCallback = false) : chain.step.FitsPhase := by
  cases chain with
  | expect | body root | json before | status root | header root name | headers root
  | get before name => exact Stage.fitsPhase_fail _ _
  | custom root callback => cases h
  | _ => exact Stage.fitsPhase_step _ rfl (by decide)

theorem ClearChain.fitsPhase_step {place : ClearPlace} (chain : ClearChain place) :
    chain.step.FitsPhase := by
  unfold step
  split
  · exact Stage.fitsPhase_fail _ _
  · exact Stage.fitsPhase_clearStep _

namespace Step.WithoutCallback

theorem fitsPhase {step : Step} (h : step.WithoutCallback) : step.FitsPhase := by
  cases h with
  | @setup call h =>
    cases call with
    | cleanup callback => cases h
    | _ => exact Stage.fitsPhase_step _ rfl (by decide)
  | send h => exact SendChain.fitsPhase_step _ h
  | expect h => exact ExpectChain.fitsPhase_step _ h
  | clear chain => exact chain.fitsPhase_step

theorem exists_chain {step : Step} {pattern : Path} (h : step.WithoutCallback)
    (hclear : step.action = .clear pattern) :
    ∃ (place : ClearPlace) (chain : ClearChain place), place ≠ .root ∧ pattern = chain.pattern := by
  -- no other kind of call declares a clear step
  have hisClear : step.isClear = true := by rw [isClear, hclear]
  cases h with
  | @setup call h => cases call <;> cases hclear
  | @send place chain h =>
    rw [(OfChain.send chain).isClear_eq_false] at hisClear
    cases hisClear
  | @expect place chain h =>
    rw [(OfChain.expect chain).isClear_eq_false] at hisClear
    cases hisClear
  | @clear place chain =>
    obtain ⟨hplace, hpattern⟩ := ClearChain.eq_pattern_of_action hclear
    exact ⟨place, chain, hplace, hpattern⟩

theorem exists_call {step : Step} (h : step.WithoutCallback) (hphase : step.phase = .setup) :
    ∃ call : SetupCall, step = call.step := by
  cases h with
  | @setup call h => exact ⟨call, rfl⟩
  | @send place chain h =>
    obtain ⟨action, hstep, -⟩ := chain.exists_step_eq
    rw [hstep, Stage.phase_stepWith] at hphase
    cases hphase
  | @expect place chain h =>
    obtain ⟨action, hstep, -⟩ := chain.exists_step_eq
    rw [hstep, Stage.phase_stepWith] at hphase
    cases hphase
  | @clear place chain =>
    unfold ClearChain.step at hphase
    split at hphase <;>
      simp [Stage.fail, Stage.clearStep] at hphase

end Step.WithoutCallback

/-- No clear chain removes a step of the setup phase. -/
theorem isClearedLater_of_setup {later : List Step} (hlater : ∀ step ∈ later, step.WithoutCallback)
    {step : Step} (h : step.WithoutCallback) (hphase : step.phase = .setup) :
    isClearedLater later step = false := by
  obtain ⟨call, rfl⟩ := h.exists_call hphase
  rw [← Bool.not_eq_true, isClearedLater_iff]
  rintro ⟨other, hother, pattern, path, hclear, hpath, hclears⟩
  obtain ⟨place, chain, hplace, rfl⟩ := (hlater other hother).exists_chain hclear
  have hkept := chain.isClearedBy_setup hplace call
  rw [Step.isClearedBy, hpath, Option.any_some, hclears] at hkept
  cases hkept

/-- All steps of the setup phase survive. -/
theorem filter_setup_survivors {steps : List Step} (h : ∀ step ∈ steps, step.WithoutCallback) :
    (survivors steps).filter (·.phase = .setup) = steps.filter (·.phase = .setup) := by
  induction steps with
  | nil => rfl
  | cons step steps ih =>
    obtain ⟨hstep, hsteps⟩ := List.forall_mem_cons.1 h
    rw [survivors_cons]
    by_cases hphase : step.phase = .setup
    · -- it is neither a clear step nor cleared
      obtain ⟨call, hcall⟩ := hstep.exists_call hphase
      have hclear : step.isClear = false := by
        rw [hcall]
        cases call <;> rfl
      rw [hclear, isClearedLater_of_setup hsteps hstep hphase, Bool.or_false,
        if_neg Bool.false_ne_true, List.filter_cons, List.filter_cons, ih hsteps]
    · have hdrop : ∀ rest : List Step, (step :: rest).filter (·.phase = .setup)
          = rest.filter (·.phase = .setup) :=
        fun rest => List.filter_cons_of_neg (by simpa using hphase)
      rw [hdrop]
      split
      · exact ih hsteps
      · rw [hdrop, ih hsteps]

/-! ## The steps of a run in their phases -/

/-- The steps that set up a run and build its request, in the order in which they run. -/
def preparing (steps : List Step) : List Step := ofPhases [.setup, .send] (survivors steps)

theorem preparing_eq {steps : List Step} (h : ∀ step ∈ steps, step.WithoutCallback) :
    preparing steps
      = steps.filter (·.phase = .setup) ++ (survivors steps).filter (·.phase = .send) := by
  rw [preparing, ofPhases, List.flatMap_cons, List.flatMap_singleton, filter_setup_survivors h]

theorem mem_of_mem_ofPhases {phases : List Phase} {steps : List Step} {step : Step}
    (h : step ∈ ofPhases phases steps) : step ∈ steps := by
  obtain ⟨phase, -, hstep⟩ := List.mem_flatMap.1 h
  exact (List.mem_filter.1 hstep).1

theorem Effect.exists_check {effect : Effect} (h : effect.phase? = some .expect) :
    ∃ test, effect = .check test := by
  cases effect with
  | check test => exact ⟨test, rfl⟩
  | _ => cases h

/-- The exchange stands where the phases before it end. -/
theorem topLevel_of_resolve {steps before after : List Step}
    (h : resolve steps = .ok (before ++ after))
    (hbefore : ∀ step ∈ before, step.phase ∈ phasesUpToExchange)
    (hafter : ∀ step ∈ after, step.phase ∈ phasesAfterExchange) (context : Context) :
    Run.topLevel steps context = execute (before ++ .exchange :: after) context := by
  have hnone : usageError? steps = none := by
    cases herror : usageError? steps with
    | none => rfl
    | some error =>
      rw [resolve, herror] at h
      cases h
  have hparts : ofPhases phasesUpToExchange (survivors steps)
      ++ ofPhases phasesAfterExchange (survivors steps) = before ++ after := by
    rw [← inPhaseOrder_eq_append]
    rw [resolve_of_usageError?_eq_none hnone] at h
    exact Except.ok.inj h
  have hdisjoint : ∀ phase ∈ phasesAfterExchange, phase ∉ phasesUpToExchange := by decide
  -- both sides are cut where the phases after the exchange begin
  have hcut : ∀ {first second : List Step}, (∀ step ∈ first, step.phase ∈ phasesUpToExchange) →
      (∀ step ∈ second, step.phase ∈ phasesAfterExchange) →
      (first ++ second).filter (·.phase ∈ phasesUpToExchange) = first := by
    intro first second hfirst hsecond
    have hkept := List.filter_eq_self.2 fun step hstep => decide_eq_true (hfirst step hstep)
    have hdropped := List.filter_eq_nil_iff.2 fun step hstep hin =>
      hdisjoint _ (hsecond step hstep) (of_decide_eq_true hin)
    rw [List.filter_append, hkept, hdropped, List.append_nil]
  have hsame : ofPhases phasesUpToExchange (survivors steps) = before := by
    rw [← hcut (fun _ => phase_mem_of_mem_ofPhases) (fun _ => phase_mem_of_mem_ofPhases), hparts,
      hcut hbefore hafter]
  rw [hsame] at hparts
  have hresolve := resolve_of_usageError?_eq_none (usageError?_withExchange steps ▸ hnone)
  rw [Run.topLevel, run_of_resolve_ok hresolve, survivors_withExchange,
    inPhaseOrder_append_exchange, hsame, List.append_cancel_left hparts]

section

variable {steps : List Step} (hsteps : ∀ step ∈ steps, step.WithoutCallback)
  (hrun : ∀ step ∈ steps, ∀ message, step.action ≠ .fail message)

include hsteps hrun

theorem exists_effect_of_mem_survivors {step : Step} (hstep : step ∈ survivors steps) :
    ∃ effect, step.action = .run effect ∧ effect.phase? = some step.phase ∧
      step.phase ∈ [.setup, .send, .expect] := by
  have hmem := mem_of_mem_survivors hstep
  obtain ⟨effect, haction⟩ :=
    (isClear_eq_false_iff (hrun step hmem)).1 (isClear_of_mem_survivors hstep)
  exact ⟨effect, haction, (hsteps step hmem).fitsPhase effect haction⟩

/-- Up to the exchange, steps only set up the run and build the request. -/
theorem ofPhases_upToExchange :
    ofPhases phasesUpToExchange (survivors steps) = preparing steps := by
  have hnone : ∀ phase, phase ∉ [Phase.setup, .send, .expect] →
      (survivors steps).filter (·.phase = phase) = [] := by
    intro phase hphase
    refine List.filter_eq_nil_iff.2 fun step hstep heq => hphase ?_
    obtain ⟨-, -, -, hmem⟩ := exists_effect_of_mem_survivors hsteps hrun hstep
    rw [← of_decide_eq_true heq]
    exact hmem
  simp [preparing, ofPhases, phasesUpToExchange, hnone]

theorem prepares_of_mem_preparing {step : Step} (h : step ∈ preparing steps) : step.Prepares := by
  obtain ⟨effect, haction, heffect, -⟩ :=
    exists_effect_of_mem_survivors hsteps hrun (mem_of_mem_ofPhases h)
  refine ⟨effect, haction, ?_⟩
  have hphase : step.phase = .setup ∨ step.phase = .send := by
    simpa using phase_mem_of_mem_ofPhases h
  rcases hphase with hphase | hphase <;> rw [hphase] at heffect
  · exact .inl heffect
  · exact .inr heffect

theorem checks_of_mem_afterExchange {step : Step}
    (h : step ∈ ofPhases phasesAfterExchange (survivors steps)) : step.Checks := by
  obtain ⟨effect, haction, heffect, hmem⟩ :=
    exists_effect_of_mem_survivors hsteps hrun (mem_of_mem_ofPhases h)
  have hphase : step.phase = .expect := by
    have hafter := phase_mem_of_mem_ofPhases h
    revert hafter hmem
    cases step.phase <;> decide
  rw [hphase] at heffect
  obtain ⟨test, rfl⟩ := Effect.exists_check heffect
  exact ⟨test, haction⟩

/-- What is run: the steps up to the exchange, the exchange, and the checks. -/
theorem topLevel_eq_execute (context : Context) :
    Run.topLevel steps context
      = execute (preparing steps ++ .exchange :: ofPhases phasesAfterExchange (survivors steps))
          context := by
  have hnone := usageError?_eq_none hrun
  rw [← ofPhases_upToExchange hsteps hrun]
  refine topLevel_of_resolve ?_ (fun _ => phase_mem_of_mem_ofPhases)
    (fun _ => phase_mem_of_mem_ofPhases) context
  rw [resolve_of_usageError?_eq_none hnone, inPhaseOrder_eq_append]

omit hrun in
/-- What setup calls set is what the last of those that are declared sets: all of them survive, and
they stay in order. -/
theorem lastSet?_preparing {α : Type} {set? : Effect → Option α}
    (hset : ∀ effect, effect.phase? ≠ some .setup → set? effect = none) :
    lastSet? set? (preparing steps) = lastSet? set? steps := by
  -- only steps of the setup phase set anything, and all of them survive in order
  have hnone : ∀ step ∈ steps, step.phase ≠ .setup → step.effect?.bind set? = none := by
    intro step hstep hphase
    cases heffect : step.effect? with
    | none => rfl
    | some effect =>
      have hfits := (hsteps step hstep).fitsPhase effect (Step.effect?_eq_some_iff.1 heffect)
      refine hset effect ?_
      rw [hfits.1]
      exact fun heq => hphase (Option.some.inj heq)
  have hsetup : lastSet? set? (steps.filter (·.phase = .setup)) = lastSet? set? steps := by
    unfold lastSet?
    rw [List.filterMap_filter]
    congr 1
    refine List.filterMap_congr fun step hstep => ?_
    by_cases hphase : step.phase = .setup
    · simp [hphase]
    · simp [hphase, hnone step hstep hphase]
  rw [preparing_eq hsteps, lastSet?_append_of_none, hsetup]
  intro step hstep
  obtain ⟨hmem, hphase⟩ := List.mem_filter.1 hstep
  refine hnone step (mem_of_mem_survivors hmem) ?_
  rw [of_decide_eq_true hphase]
  decide

omit hrun in
theorem baseUrl_prepared (context : Context) :
    (context.prepared (preparing steps)).baseUrl
      = (lastSet? Effect.baseUrl? steps <|> context.baseUrl) := by
  rw [← lastSet?_preparing hsteps fun _ => Effect.baseUrl?_eq_none]
  rfl

omit hrun in
theorem connection_prepared (context : Context) :
    (context.prepared (preparing steps)).connection
      = ((lastSet? Effect.transport? steps).map .fresh <|> context.connection) := by
  rw [← lastSet?_preparing hsteps fun _ => Effect.transport?_eq_none]
  rfl

end

/-- A transport is there if one is declared, or if the context has one. -/
theorem exists_connection {steps : List Step} {context : Context}
    (h : context.connection ≠ none ∨ ∃ installed, (SetupCall.transport installed).step ∈ steps) :
    ∃ connection, ((lastSet? Effect.transport? steps).map .fresh <|> context.connection)
      = some connection := by
  cases hlast : lastSet? Effect.transport? steps with
  | some installed => exact ⟨.fresh installed, rfl⟩
  | none =>
    rcases h with hsome | ⟨installed, hin⟩
    · obtain ⟨connection, hconnection⟩ := Option.ne_none_iff_exists'.1 hsome
      exact ⟨connection, by rw [hconnection]; rfl⟩
    · have hnil := List.getLast?_eq_none_iff.1 hlast
      have hnone := List.filterMap_eq_nil_iff.1 hnil _ hin
      cases hnone

theorem method_after_preparing {steps : List Step} (hsteps : ∀ step ∈ steps, step.WithoutCallback)
    (request : Request) :
    (request.after (preparing steps)).method
      = (request.after (steps.filter (·.phase = .setup))).method := by
  -- what is sent leaves the method, step by step
  have hsend : ∀ (built : List Step) (request : Request),
      (∀ step ∈ built, step.WithoutCallback ∧ step.phase = .send) →
        (request.after built).method = request.method := by
    intro built
    induction built with
    | nil => exact fun _ _ => rfl
    | cons step built ih =>
      intro request hbuilt
      obtain ⟨⟨hstep, hphase⟩, hrest⟩ := List.forall_mem_cons.1 hbuilt
      refine (ih _ hrest).trans ?_
      show (step.onRequest request).method = _
      unfold Step.onRequest
      split
      next effect heffect =>
        have hfits := hstep.fitsPhase effect (Step.effect?_eq_some_iff.1 heffect)
        rw [hphase] at hfits
        exact Effect.method_onRequest hfits.1 request
      next => rfl
  rw [preparing_eq hsteps, Request.after_append]
  refine hsend _ _ fun step hstep => ?_
  obtain ⟨hmem, hphase⟩ := List.mem_filter.1 hstep
  exact ⟨hsteps step (mem_of_mem_survivors hmem), of_decide_eq_true hphase⟩

/-- A top-level run of steps without callbacks, with a transport, hands over no request if a step is
misused or no method is set, and else one, whatever is expected. The request is built by the steps
that survive, in order, with the base address in front; the transport is the last one that was
declared, or the one of the context. A reply stays, whether or not the expectations hold, and a
misuse leaves the whole context as it was. -/
theorem Run.topLevel_hands_over_once {steps : List Step} {context : Context}
    (hsteps : ∀ step ∈ steps, step.WithoutCallback)
    (htransport : context.connection ≠ none ∨
      ∃ installed, (SetupCall.transport installed).step ∈ steps) :
    ((∃ step ∈ steps, ∃ message, step.action = .fail message) →
      ∃ step ∈ steps, ∃ message, step.action = .fail message ∧
        Run.topLevel steps context
          = .ok (.error (context.failure step.call (.usage message))) context) ∧
    ((∀ step ∈ steps, ∀ message, step.action ≠ .fail message) →
      ∃ connection outcome after,
        ((lastSet? Effect.transport? steps).map .fresh <|> context.connection) = some connection ∧
        Run.topLevel steps context = .ok outcome after ∧
        ((context.request.after (steps.filter (·.phase = .setup))).method = none →
          (∃ failure, outcome = .error failure ∧ failure.cause = Attempt.noMethod) ∧
          after.journal = context.journal ∧
          after.connection = some connection ∧
          after.response = context.response) ∧
        ((context.request.after (steps.filter (·.phase = .setup))).method ≠ none →
          let sent := (context.request.after (preparing steps)).under
            (lastSet? Effect.baseUrl? steps <|> context.baseUrl)
          after.journal = context.journal ++ [.request sent] ∧
          after.connection = some (connection.after sent) ∧
          after.request = sent ∧
          (∀ response, connection.reply sent = .ok response → after.response = some response) ∧
          ∀ error, connection.reply sent = .error error →
            after.response = context.response ∧
            ∃ failure, outcome = .error failure ∧ failure.cause = .transport error)) := by
  constructor
  · -- the step that is reported is the first misused one, which need not be the given one
    rintro ⟨step, hstep, message, hfail⟩
    rcases usageError?_cases steps with
      ⟨-, hnone⟩ | ⟨before, first, later, message, rfl, hfirst, -, herror⟩
    · exact absurd hfail (hnone step hstep message)
    · refine ⟨first, List.mem_append_right _ List.mem_cons_self, message, hfirst, ?_⟩
      rw [← usageError?_withExchange] at herror
      have hresolve : resolve (withExchange (before ++ first :: later))
          = .error (first, .usage message) := by
        rw [resolve, herror]
      exact run_of_resolve_error hresolve context
  · intro hrun
    have htop := topLevel_eq_execute hsteps hrun context
    have hprepares : ∀ step ∈ preparing steps, step.Prepares := fun step =>
      prepares_of_mem_preparing hsteps hrun
    have hchecks : ∀ step ∈ ofPhases phasesAfterExchange (survivors steps), step.Checks :=
      fun step => checks_of_mem_afterExchange hsteps hrun
    have hmethod := method_after_preparing hsteps context.request
    -- what is run first is prepared without fail, so all depends on what the exchange finds then
    obtain ⟨connection, hconnection⟩ := exists_connection htransport
    have hprepared : (context.prepared (preparing steps)).connection = some connection := by
      rw [connection_prepared hsteps, hconnection]
    by_cases hnone : (context.request.after (preparing steps)).method = none
    · rw [execute_exchange_of_no_method hprepares hnone] at htop
      refine ⟨connection, _, _, hconnection, htop, fun _ => ?_, fun hsome => ?_⟩
      · exact ⟨⟨_, rfl, rfl⟩, rfl, hprepared, rfl⟩
      · exact absurd (hmethod.symm.trans hnone) hsome
    · obtain ⟨outcome, hout, herror⟩ :=
        exists_execute_exchange hprepares hchecks hnone hprepared
      rw [← htop] at hout
      refine ⟨connection, outcome, _, hconnection, hout, fun hmissing => ?_, fun _ => ?_⟩
      · exact absurd (hmethod.trans hmissing) hnone
      · rw [← baseUrl_prepared hsteps]
        refine ⟨rfl, rfl, rfl, fun response hreply => ?_, fun error hreply => ⟨?_, ?_⟩⟩
        · exact congrArg (fun reply : Reply => reply.toOption <|> context.response) hreply
        · exact congrArg (fun reply : Reply => reply.toOption <|> context.response) hreply
        · exact herror error hreply

/-- One of two headers is cleared, the status is not the expected one, and still there is one request
and its reply. -/
theorem Run.topLevel_hands_over_echo :
    ∃ outcome after,
      Run.topLevel
        [(ExpectChain.expect.statusValue (.int 404)).step,
          (SendChain.send.header "X" "1").step,
          (SendChain.send.header "Y" "2").step,
          (ClearChain.clear.send.sendHeader [.string "X"]).step,
          (SetupCall.request .post "/a").step,
          (SetupCall.transport .echo).step,
          (SetupCall.baseUrl "http://h").step]
        (.new .standard) = .ok outcome after ∧
      after.journal = [.request ⟨some .post, "http://h/a", [("Y", "2")], .empty⟩] ∧
      after.response = some ⟨200, [("Y", "2")], .empty⟩ := by
  let steps : List Step :=
    [(ExpectChain.expect.statusValue (.int 404)).step,
      (SendChain.send.header "X" "1").step,
      (SendChain.send.header "Y" "2").step,
      (ClearChain.clear.send.sendHeader [.string "X"]).step,
      (SetupCall.request .post "/a").step,
      (SetupCall.transport .echo).step,
      (SetupCall.baseUrl "http://h").step]
  have hsteps : ∀ step ∈ steps, step.WithoutCallback := by
    simp only [steps, List.forall_mem_cons]
    exact ⟨.expect rfl, .send rfl, .send rfl, .clear _, .setup rfl, .setup rfl, .setup rfl,
      fun _ hin => absurd hin List.not_mem_nil⟩
  have htransport : (Context.new .standard).connection ≠ none ∨
      ∃ installed, (SetupCall.transport installed).step ∈ steps :=
    .inr ⟨.echo, by simp [steps]⟩
  obtain ⟨connection, outcome, after, hconnection, hrun, -, hsent⟩ :=
    (topLevel_hands_over_once hsteps htransport).2 (ne_fail_of_usageError?_eq_none rfl)
  have hbuilt : (Context.new .standard).request.after (preparing steps)
      = ⟨some .post, "/a", [("Y", "2")], .empty⟩ := by decide +kernel
  have hmethod : ((Context.new .standard).request.after
      (steps.filter (·.phase = .setup))).method = some .post := rfl
  have hbase : lastSet? Effect.baseUrl? steps = some "http://h" := rfl
  have hlast : lastSet? Effect.transport? steps = some .echo := rfl
  rw [hlast] at hconnection
  cases Option.some.inj hconnection
  rw [hbuilt, hmethod, hbase] at hsent
  obtain ⟨hjournal, -, -, hreply, -⟩ := hsent nofun
  exact ⟨outcome, after, hrun, hjournal, hreply _ rfl⟩

end HttpTest
