import HttpTest.Proofs.Chain.Mirror
import HttpTest.Proofs.Run.Invariant

/-!
# The description of a run

A test declares its description before everything else. From where that step is done every failure
carries the description, and no clear chain removes the step. But what is resolved before anything
runs and what runs in a phase before it comes too early (`Run.StopsEarly`), and these are the
failures that go without (`Run.endsRun_testSteps`).
-/

namespace HttpTest

open Pipeline

/-! ## Programs that set no description -/

mutual

/-- The program sets no description, nor does a step of a run that it starts. The texts of the
panics that are its own are as `own` says. -/
def Program.NeverDescribes (own : String → Prop) : Program → Prop
  | .finish | .fail _ _ | .raise _ => True
  | .panic text => own text
  | .look next => ∀ context, (next context).NeverDescribes own
  | .set setting next => (∀ text, setting ≠ .description text) ∧ next.NeverDescribes own
  | .exchange next => ∀ outcome, (next outcome).NeverDescribes own
  | .run _ steps done failed =>
    declarationsNeverDescribe own steps ∧ done.NeverDescribes own ∧
      ∀ failure, (failed failure).NeverDescribes own
  | .mustDo steps next => declarationsNeverDescribe own steps ∧ next.NeverDescribes own

def Declaration.NeverDescribes (own : String → Prop) : Declaration → Prop
  | .builtIn step _ => ∀ text, step.action ≠ .run (.description text)
  | .custom _ _ program => program.NeverDescribes own

def declarationsNeverDescribe (own : String → Prop) : List Declaration → Prop
  | [] => True
  | declaration :: declarations =>
    declaration.NeverDescribes own ∧ declarationsNeverDescribe own declarations

end

theorem declarationsNeverDescribe_iff {own : String → Prop} {declarations : List Declaration} :
    declarationsNeverDescribe own declarations ↔
      ∀ declaration ∈ declarations, declaration.NeverDescribes own := by
  induction declarations with
  | nil =>
    rw [declarationsNeverDescribe]
    exact iff_of_true trivial fun _ hin => absurd hin List.not_mem_nil
  | cons declaration declarations ih => rw [declarationsNeverDescribe, ih, List.forall_mem_cons]

/-- The description stays what it is and every failure carries it. A panic is one that a program
chose or the report of such a failure. -/
def described (description : Option String) (own : String → Prop) : RunInvariant where
  Holds context := context.description = description
  Reported failure := failure.description = description
  Panicked reason := own reason.text ∨
    ∃ failure : Failure, failure.description = description ∧ reason.text = failure.message
  enter _ h := h
  leave h := h
  failure _ _ h := h

section

variable {description : Option String} {own : String → Prop}

theorem Setting.description_apply {setting : Setting} (h : ∀ text, setting ≠ .description text)
    (context : Context) : (setting.apply context).description = context.description := by
  cases setting with
  | description text => exact absurd rfl (h text)
  | _ => rfl

theorem kept_exchange : (described description own).Kept Attempt.exchange := by
  intro context hcontext
  obtain ⟨outcome, _, _, _, _, hrun, hown⟩ := Attempt.exists_run_exchange_eq context
  rw [hrun]
  exact ⟨hcontext, fun failure hfailure => absurd hfailure (hown failure)⟩

theorem Effect.IsBuiltIn.kept {effect : Effect} (h : effect.IsBuiltIn)
    (hquiet : ∀ text, effect ≠ .description text) :
    (described description own).Kept effect.perform := by
  cases effect with
  | description text => exact absurd rfl (hquiet text)
  | exchange => exact kept_exchange
  | check test => exact RunInvariant.kept_check h
  | custom callback => exact h.elim
  | _ => exact fun _ hcontext => ⟨hcontext, nofun⟩

theorem Step.IsBuiltIn.kept {step : Step} (h : step.IsBuiltIn)
    (hquiet : ∀ text, step.action ≠ .run (.description text)) :
    (described description own).Kept step.perform := by
  unfold Step.perform
  split
  next effect heffect =>
    refine (h effect heffect).kept fun text htext => hquiet text ?_
    rw [heffect, htext]
  next => exact RunInvariant.kept_fail_own rfl
  next => exact RunInvariant.kept_pure

mutual

theorem Program.kept : ∀ (program : Program) {held : List Failure}, program.NeverDescribes own →
    (∀ failure ∈ held, failure.description = description) →
    (described description own).Kept (program.callback held)
  | .finish, _, _, _ => RunInvariant.kept_pure
  | .fail _ own, _, _, _ => RunInvariant.kept_fail_own own
  | .raise index, held, _, hheld => by
    rw [Program.callback]
    cases hindex : held[index]? with
    | none => exact RunInvariant.kept_pure
    | some failure =>
      refine RunInvariant.kept_fail fun other hother => ?_
      cases hother
      exact hheld failure (List.mem_of_getElem? hindex)
  | .panic _, _, hquiet, _ => fun _ _ => .inl hquiet
  | .look next, _, hquiet, hheld => fun context hcontext =>
    (next context).kept (hquiet context) hheld context hcontext
  | .set setting next, _, hquiet, hheld => by
    intro context hcontext
    rw [Program.run_callback_set]
    exact next.kept hquiet.2 hheld _ ((setting.description_apply hquiet.1 context).trans hcontext)
  | .exchange next, _, hquiet, hheld => by
    intro context hcontext
    rw [Program.run_callback_exchange]
    obtain ⟨outcome, _, _, _, _, hrun, _⟩ := Attempt.exists_run_exchange_eq context
    rw [hrun]
    exact (next outcome).kept (hquiet outcome) hheld _ hcontext
  | .run kind steps done failed, held, hquiet, hheld => by
    intro context hcontext
    rw [Program.run_callback_run]
    have hsteps := declaredSteps_kept steps hquiet.1 hheld
    have hends := RunInvariant.start kind hsteps kept_exchange hcontext
    cases hstart : kind.start (declaredSteps steps held) context with
    | error reason left =>
      rw [hstart] at hends
      exact hends
    | ok result left =>
      rw [hstart] at hends
      cases result with
      | ok succeeded => exact done.kept hquiet.2.1 hheld left hends.1
      | error failure =>
        -- the program is handed a failure that carries the description
        have hfailed := List.forall_mem_cons.2 ⟨hends.2 failure rfl, hheld⟩
        exact (failed failure).kept (hquiet.2.2 failure) hfailed left hends.1
  | .mustDo steps next, held, hquiet, hheld => by
    intro context hcontext
    rw [Program.run_callback_mustDo]
    have hsteps := declaredSteps_kept steps hquiet.1 hheld
    have hends := RunInvariant.run hsteps hcontext
    cases hstart : Run.doSteps (declaredSteps steps held) context with
    | error reason left =>
      rw [Run.doSteps] at hstart
      rw [hstart] at hends
      exact hends
    | ok result left =>
      rw [Run.doSteps] at hstart
      rw [hstart] at hends
      cases result with
      | ok succeeded => exact next.kept hquiet.2 hheld left hends.1
      | error failure => exact .inr ⟨failure, hends.2 failure rfl, rfl⟩

theorem Declaration.kept : ∀ (declaration : Declaration) {held : List Failure},
    declaration.NeverDescribes own → (∀ failure ∈ held, failure.description = description) →
    (described description own).Kept (declaration.step held).perform
  | .builtIn _ builtIn, _, hquiet, _ => builtIn.kept hquiet
  | .custom _ _ program, _, hquiet, hheld => program.kept hquiet hheld

theorem declaredSteps_kept : ∀ (declarations : List Declaration) {held : List Failure},
    declarationsNeverDescribe own declarations →
    (∀ failure ∈ held, failure.description = description) →
    ∀ step ∈ declaredSteps declarations held, (described description own).Kept step.perform
  | [], _, _, _ => nofun
  | declaration :: declarations, _, hquiet, hheld => by
    intro step hstep
    rw [declaredSteps] at hstep
    rcases List.mem_cons.1 hstep with rfl | hrest
    · exact declaration.kept hquiet.1 hheld
    · exact declaredSteps_kept declarations hquiet.2 hheld step hrest

end

end

/-! ## Tests -/

/-- The run of some steps ends before its setup: at a usage error, or in the phase before. -/
def Run.StopsEarly (steps : List Step) (context : Context) : Prop :=
  ∀ resolved, resolve (withExchange steps) = .ok resolved →
    ∀ reached, execute (resolved.filter (·.phase = .clean)) context ≠ .ok (.ok ()) reached

/-- Clear steps are declared by clear chains alone. -/
def Step.IsClearOfChain (step : Step) : Prop :=
  ∀ pattern, step.action = .clear pattern →
    ∃ (place : ClearPlace) (clearing : ClearChain place), step = clearing.step

theorem isClearedLater_setup {steps : List Step} (h : ∀ step ∈ steps, step.IsClearOfChain)
    (call : SetupCall) : isClearedLater steps call.step = false := by
  rw [← Bool.not_eq_true, isClearedLater_iff]
  rintro ⟨other, hother, pattern, path, hclear, hpath, hclears⟩
  obtain ⟨place, clearing, rfl⟩ := h other hother pattern hclear
  obtain ⟨hplace, rfl⟩ := ClearChain.eq_pattern_of_action hclear
  have hkept := clearing.isClearedBy_setup hplace call
  rw [Step.isClearedBy, hpath, Option.any_some, hclears] at hkept
  cases hkept

/-- The description of a test is set behind the steps of the phase before the setup, and before all
others. -/
theorem exists_resolve_testSteps {text : String} {steps resolved : List Step}
    (h : ∀ step ∈ steps, step.IsClearOfChain)
    (hresolve : resolve (withExchange (Run.testSteps text steps)) = .ok resolved) :
    ∃ late, resolved = resolved.filter (·.phase = .clean)
        ++ (SetupCall.description text).step :: late ∧
      (∀ step ∈ resolved.filter (·.phase = .clean), step ∈ withExchange steps) ∧
      ∀ step ∈ late, step ∈ withExchange steps := by
  have hchains : ∀ step ∈ withExchange steps, step.IsClearOfChain := by
    intro step hstep
    rcases List.mem_append.1 hstep with hin | hlast
    · exact h step hin
    · rw [List.mem_singleton.1 hlast]
      exact nofun
  -- no clear chain addresses the description, so it is the first of the survivors
  have hsurvivors : survivors (withExchange (Run.testSteps text steps))
      = (SetupCall.description text).step :: survivors (withExchange steps) := by
    show survivors ((SetupCall.description text).step :: withExchange steps) = _
    rw [survivors_cons, isClearedLater_setup hchains]
    rfl
  have hphase : (SetupCall.description text).step.phase = .setup := rfl
  obtain ⟨late, horder, hlate⟩ :=
    exists_inPhaseOrder_cons_of_setup hphase (survivors (withExchange steps))
  have hresolved : resolved = inPhaseOrder
      ((SetupCall.description text).step :: survivors (withExchange steps)) := by
    unfold resolve at hresolve
    split at hresolve
    · cases hresolve
    · cases hresolve
      rw [hsurvivors]
  have hnone : ((SetupCall.description text).step :: late).filter (·.phase = .clean) = [] := by
    refine List.filter_eq_nil_iff.2 fun step hstep hclean => ?_
    rcases List.mem_cons.1 hstep with rfl | hin
    · exact absurd (hphase.symm.trans (of_decide_eq_true hclean)) (by decide)
    · exact (hlate step hin).2 (of_decide_eq_true hclean)
  have hearly : resolved.filter (·.phase = .clean)
      = (survivors (withExchange steps)).filter (·.phase = .clean) := by
    rw [hresolved, horder, List.filter_append, hnone, List.append_nil, List.filter_filter]
    simp only [Bool.and_self]
  refine ⟨late, ?_, fun step hstep => ?_, fun step hstep => ?_⟩
  · rw [hearly, hresolved, horder]
  · rw [hearly] at hstep
    exact mem_of_mem_survivors (List.mem_filter.1 hstep).1
  · exact mem_of_mem_survivors (hlate step hstep).1

namespace Run

variable {text : String} {own : String → Prop} {declarations : List Declaration}

theorem declaredSteps_withExchange_kept {description : Option String}
    (hquiet : ∀ declaration ∈ declarations, declaration.NeverDescribes own) :
    ∀ step ∈ withExchange (declaredSteps declarations []),
      (described description own).Kept step.perform := by
  intro step hstep
  rcases List.mem_append.1 hstep with hin | hlast
  · have hheld : ∀ failure ∈ ([] : List Failure), failure.description = description :=
      fun _ hin => absurd hin List.not_mem_nil
    exact declaredSteps_kept declarations (declarationsNeverDescribe_iff.2 hquiet) hheld step hin
  · rw [List.mem_singleton.1 hlast]
    exact kept_exchange

/-- Too early there is no description, and from then on it is the one of the test. -/
theorem endsRun_testSteps (text : String) (config : Config)
    (hquiet : ∀ declaration ∈ declarations, declaration.NeverDescribes own)
    (hclear : ∀ step ∈ declaredSteps declarations [], step.IsClearOfChain) :
    let steps := testSteps text (declaredSteps declarations [])
    (StopsEarly steps (.new config) → (described none own).EndsRun (runWith config steps)) ∧
    (¬ StopsEarly steps (.new config) →
      (described (some text) own).EndsRun (runWith config steps)) := by
  intro steps
  have hnew : (Context.new config).description = none := rfl
  show (_ → (described none own).EndsRun (Pipeline.run (withExchange steps) (.new config))) ∧
    (_ → (described (some text) own).EndsRun (Pipeline.run (withExchange steps) (.new config)))
  cases hresolve : resolve (withExchange steps) with
  | error error =>
    obtain ⟨step, cause⟩ := error
    -- a usage error is reported in the context that nothing has run in
    have hearly : StopsEarly steps (.new config) := by
      intro resolved hok
      rw [hresolve] at hok
      cases hok
    refine ⟨fun _ => ?_, fun hlate => absurd hearly hlate⟩
    rw [run_of_resolve_error hresolve]
    refine ⟨hnew, fun failure hfailure => ?_⟩
    cases hfailure
    exact hnew
  | ok resolved =>
    obtain ⟨late, hresolved, hearly, hlate⟩ := exists_resolve_testSteps hclear hresolve
    rw [run_of_resolve_ok hresolve, hresolved]
    by_cases hdone : ∃ reached, execute (resolved.filter (·.phase = .clean)) (.new config)
        = .ok (.ok ()) reached
    · obtain ⟨reached, hreached⟩ := hdone
      refine ⟨fun hstops => absurd hreached (hstops resolved hresolve reached), fun _ => ?_⟩
      -- the description is set, and the other steps run in a context that has it
      rw [execute_append_of_ok hreached, execute_cons_of_ok rfl]
      exact RunInvariant.execute
        (fun step hstep => declaredSteps_withExchange_kept hquiet step (hlate step hstep)) rfl
    · -- the steps before the setup are not all done, and nothing runs behind them
      have hnever := not_exists.1 hdone
      refine ⟨fun _ => ?_, fun hlater => absurd ?_ hlater⟩
      · rw [execute_append_of_not_done hnever]
        exact RunInvariant.execute
          (fun step hstep => declaredSteps_withExchange_kept hquiet step (hearly step hstep)) hnew
      · intro other hother reached
        rw [hresolve] at hother
        cases hother
        exact hnever reached

/-- The panic of a test is the report of its failure, or one that comes from inside the run. -/
theorem test_eq (text : String) (steps : List Step) :
    test text steps =
      match runWith .standard (testSteps text steps) with
      | .ok (.ok ()) after => EStateM.Result.ok () after
      | .ok (.error failure) after => EStateM.Result.error ⟨failure.message⟩ after
      | .error reason after => EStateM.Result.error reason after := by
  show EStateM.bind (topLevel (testSteps text steps)) _ (.new .standard) = _
  unfold EStateM.bind runWith
  cases topLevel (testSteps text steps) (.new .standard) with
  | ok outcome after => cases outcome <;> rfl
  | error reason after => rfl

/-- The description heads the report of a failure that carries it. -/
theorem exists_message_eq {failure : Failure} (h : failure.description = some text) :
    ∃ report, failure.message = text ++ "\n" ++ report := by
  refine ⟨String.join (failure.frames.map fun frame => "in " ++ frame ++ "\n") ++ failure.call
    ++ "\n" ++ failure.cause.message, ?_⟩
  simp only [Report.message, Report.messageWith, h, String.append_assoc]

/-- Every failure of a test carries its description, and heads its report with it, unless the run
stops before the setup: then no failure does. -/
theorem description_of_failure (text : String) (own : String → Prop)
    (declarations : List Declaration) (config : Config)
    (hquiet : ∀ declaration ∈ declarations, declaration.NeverDescribes own)
    (hclear : ∀ step ∈ declaredSteps declarations [], step.IsClearOfChain) :
    let steps := testSteps text (declaredSteps declarations [])
    (∀ failure after, runWith config steps = .ok (.error failure) after →
      (StopsEarly steps (.new config) → failure.description = none) ∧
      (¬ StopsEarly steps (.new config) → failure.description = some text)) ∧
    ∀ reason after, test text (declaredSteps declarations []) = .error reason after →
      ¬ StopsEarly steps (.new .standard) →
        own reason.text ∨ ∃ report, reason.text = text ++ "\n" ++ report := by
  intro steps
  refine ⟨fun failure after hrun => ?_, fun reason after htest hlate => ?_⟩
  · obtain ⟨hearly, hlate⟩ := endsRun_testSteps text config hquiet hclear
    rw [hrun] at hearly hlate
    exact ⟨fun hstops => (hearly hstops).2 failure rfl, fun hgoes => (hlate hgoes).2 failure rfl⟩
  · have hends := (endsRun_testSteps text .standard hquiet hclear).2 hlate
    rw [test_eq] at htest
    cases hrun : runWith .standard (testSteps text (declaredSteps declarations [])) with
    | ok outcome left =>
      rw [hrun] at htest hends
      cases outcome with
      | ok succeeded => cases htest
      | error failure =>
        cases htest
        exact .inr (exists_message_eq (hends.2 failure rfl))
    -- a panic is of a program itself, or reports a failure, which carries the description
    | error other left =>
      rw [hrun] at htest hends
      cases htest
      rcases hends with hown | ⟨failure, hdescription, hmessage⟩
      · exact .inl hown
      · rw [hmessage]
        exact .inr (exists_message_eq hdescription)

/-- A callback of the setup phase fails behind the description. -/
theorem description_of_setup_failure :
    let steps := testSteps "T"
      (declaredSteps [.custom .setup none (.fail (.custom "no server") rfl)] [])
    ∃ failure after, run steps = .ok (.error failure) after ∧ failure.description = some "T" := by
  intro steps
  have hquiet : ∀ declaration ∈ [Declaration.custom .setup none (.fail (.custom "no server") rfl)],
      declaration.NeverDescribes fun _ => False := by
    intro declaration hdeclaration
    rw [List.mem_singleton.1 hdeclaration]
    trivial
  have hclear : ∀ step ∈
      declaredSteps [Declaration.custom .setup none (.fail (.custom "no server") rfl)] [],
      step.IsClearOfChain := by
    intro step hstep
    rw [List.mem_singleton.1 hstep]
    exact nofun
  have hlate : ¬ StopsEarly steps (.new .standard) := fun hstops => hstops _ rfl _ rfl
  have hrun : ∃ failure after, run steps = .ok (.error failure) after := ⟨_, _, rfl⟩
  obtain ⟨failure, after, hrun⟩ := hrun
  have hdescription := (description_of_failure "T" (fun _ => False) _ .standard hquiet hclear).1
    failure after hrun
  exact ⟨failure, after, hrun, hdescription.2 hlate⟩

/-- A usage error is reported without the description. -/
theorem not_description_of_usageError :
    ¬ ∀ (text : String) (declarations : List Declaration),
      (∀ declaration ∈ declarations, declaration.NeverDescribes fun _ => False) →
      (∀ step ∈ declaredSteps declarations [], step.IsClearOfChain) →
      ∀ failure after, run (testSteps text (declaredSteps declarations []))
        = .ok (.error failure) after → failure.description = some text := by
  intro h
  have hbuiltIn : SendChain.send.step.IsBuiltIn := fun _ heffect => nomatch heffect
  have hquiet : ∀ declaration ∈ [Declaration.builtIn SendChain.send.step hbuiltIn],
      declaration.NeverDescribes fun _ => False := by
    intro declaration hdeclaration
    rw [List.mem_singleton.1 hdeclaration]
    exact nofun
  have hclear : ∀ step ∈ declaredSteps [Declaration.builtIn SendChain.send.step hbuiltIn] [],
      step.IsClearOfChain := by
    intro step hstep
    rw [List.mem_singleton.1 hstep]
    exact nofun
  have hresolve : resolve (withExchange (testSteps "T" [SendChain.send.step]))
      = .error (SendChain.send.step, .usage (Misuse.withoutArgument "send").message) := rfl
  have hsome := h "T" _ hquiet hclear _ _ (run_of_resolve_error hresolve (.new .standard))
  cases hsome

end Run

end HttpTest
