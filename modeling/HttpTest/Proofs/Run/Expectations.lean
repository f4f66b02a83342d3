import HttpTest.Proofs.Run.Request

/-!
# Runs of expectations

An expectation that is declared without a callback reads the response and leaves the context as it
is, so whether it holds does not depend on what ran before it. Expectations together succeed exactly
if each of them holds (`Run.exists_doSteps_of_expectations`), in whatever order they are declared
and however often.
-/

namespace HttpTest

open Pipeline

/-- The step is declared by an expect chain without a callback. -/
inductive Step.IsExpectation : Step → Prop where
  | of_chain {place : ExpectPlace} {chain : ExpectChain place}
      (h : chain.takesCallback = false) : IsExpectation chain.step

/-- The step checks the response, and the response of the context passes. -/
def Step.Passes (step : Step) (context : Context) : Prop :=
  ∃ test, step.action = .run (.check test) ∧ context.response?.bind test = .ok ()

/-- An expectation is misused or checks the response. -/
theorem Step.IsExpectation.fails_or_checks {step : Step} (h : step.IsExpectation) :
    (∃ message, step.action = .fail message) ∨ step.Checks := by
  cases h with
  | @of_chain place chain h =>
    by_cases hfail : ∃ message, chain.step.action = .fail message
    · exact .inl hfail
    · have hclear := (OfChain.expect chain).isClear_eq_false
      have hrun : ∀ message, chain.step.action ≠ .fail message :=
        fun message hmessage => hfail ⟨message, hmessage⟩
      obtain ⟨effect, heffect⟩ := (isClear_eq_false_iff hrun).1 hclear
      obtain ⟨action, hstep, -⟩ := chain.exists_step_eq
      have hphase : chain.step.phase = .expect := by rw [hstep, Stage.phase_stepWith]
      -- an effect for this phase is a check
      have hfits := (chain.fitsPhase_step h effect heffect).1
      rw [hphase] at hfits
      obtain ⟨test, rfl⟩ := Effect.exists_check hfits
      exact .inr ⟨test, heffect⟩

theorem Pipeline.execute_eq_ok_iff_of_checks {steps : List Step} (h : ∀ step ∈ steps, step.Checks)
    (context : Context) :
    execute steps context = .ok (.ok ()) context ↔ ∀ step ∈ steps, step.Passes context := by
  induction steps with
  | nil => exact iff_of_true rfl (List.forall_mem_nil _)
  | cons step steps ih =>
    obtain ⟨⟨test, haction⟩, hsteps⟩ := List.forall_mem_cons.1 h
    -- opening the step leaves the response as it is
    have hrun : step.perform.run (context.enter step.call)
        = .ok (context.response?.bind test) (context.enter step.call) := by
      rw [Step.perform, haction, Attempt.run_check]
      rfl
    have hpasses : step.Passes context ↔ context.response?.bind test = .ok () := by
      refine ⟨?_, fun htest => ⟨test, haction, htest⟩⟩
      rintro ⟨other, hother, htest⟩
      cases haction.symm.trans hother
      exact htest
    rw [List.forall_mem_cons, hpasses, ← ih hsteps]
    cases hresult : context.response?.bind test with
    | ok done =>
      rw [hresult] at hrun
      rw [execute_cons_of_ok hrun, Context.leave_enter]
      exact (and_iff_right rfl).symm
    | error cause =>
      rw [hresult] at hrun
      refine iff_of_false (fun hdone => ?_) fun hboth => ?_
      · rw [execute_cons, hrun] at hdone
        cases cause <;> cases hdone
      · cases hboth.1

namespace Run

/-- The steps, run inside a run, end without a failure. -/
def Succeeds (steps : List Step) (context : Context) : Prop :=
  ∃ after, doSteps steps context = .ok (.ok ()) after

/-- Expectations end in the context that they start in, and are done if each of them passes. -/
theorem exists_doSteps_of_expectations {steps : List Step}
    (h : ∀ step ∈ steps, step.IsExpectation) (context : Context) :
    ∃ outcome, doSteps steps context = .ok outcome context ∧
      (outcome = .ok () ↔ ∀ step ∈ steps, step.Passes context) := by
  rcases usageError?_cases steps with
    ⟨-, hrun⟩ | ⟨before, step, after, message, rfl, hfail, -, herror⟩
  · have hchecks : ∀ step ∈ steps, step.Checks := by
      intro step hstep
      rcases (h step hstep).fails_or_checks with ⟨message, hfail⟩ | hchecks
      · exact absurd hfail (hrun step hstep message)
      · exact hchecks
    have hresolve : resolve steps = .ok (inPhaseOrder steps) := by
      refine resolve_of_effects fun step hstep => ?_
      obtain ⟨test, haction⟩ := hchecks step hstep
      exact ⟨_, haction⟩
    -- ordering by phase changes nothing about which steps there are
    have hordered : ∀ step ∈ inPhaseOrder steps, step.Checks :=
      fun step hstep => hchecks step (mem_inPhaseOrder.1 hstep)
    obtain ⟨outcome, hexecute⟩ := exists_execute_of_checks hordered context
    have hpass := execute_eq_ok_iff_of_checks hordered context
    simp only [mem_inPhaseOrder] at hpass
    refine ⟨outcome, (run_of_resolve_ok hresolve context).trans hexecute, ?_⟩
    rw [← hpass, hexecute]
    exact ⟨fun hdone => by rw [hdone], fun hdone => by cases hdone; rfl⟩
  · -- a misuse is reported before anything runs
    have hresolve : resolve (before ++ step :: after) = .error (step, .usage message) := by
      rw [resolve, herror]
    refine ⟨_, run_of_resolve_error hresolve context, iff_of_false nofun fun hall => ?_⟩
    obtain ⟨test, haction, -⟩ := hall step (List.mem_append_right _ List.mem_cons_self)
    cases hfail.symm.trans haction

theorem succeeds_iff_of_expectations {steps : List Step} (h : ∀ step ∈ steps, step.IsExpectation)
    (context : Context) : Succeeds steps context ↔ ∀ step ∈ steps, step.Passes context := by
  obtain ⟨outcome, hrun, hpass⟩ := exists_doSteps_of_expectations h context
  rw [← hpass, Succeeds, hrun]
  constructor
  · rintro ⟨after, hdone⟩
    cases hdone
    rfl
  · rintro rfl
    exact ⟨context, rfl⟩

/-- Expectations leave everything as it is, whether or not they hold. They succeed together exactly
if each of them does alone, and so do the same expectations in another order or repeated. -/
theorem expectations_change_nothing_in_any_order {steps : List Step}
    (h : ∀ step ∈ steps, step.IsExpectation) (context : Context) :
    (∃ outcome, doSteps steps context = .ok outcome context) ∧
    (Succeeds steps context ↔ ∀ step ∈ steps, Succeeds [step] context) ∧
    ∀ other : List Step, (∀ step, step ∈ other ↔ step ∈ steps) →
      (Succeeds other context ↔ Succeeds steps context) := by
  have htogether := succeeds_iff_of_expectations h context
  refine ⟨?_, ?_, fun other hsame => ?_⟩
  · obtain ⟨outcome, hrun, -⟩ := exists_doSteps_of_expectations h context
    exact ⟨outcome, hrun⟩
  · rw [htogether]
    refine forall₂_congr fun step hstep => ?_
    have halone := succeeds_iff_of_expectations (List.forall_mem_singleton.2 (h step hstep)) context
    rw [halone, List.forall_mem_singleton]
  · have hother := succeeds_iff_of_expectations (fun step hstep => h step ((hsame step).1 hstep))
      context
    rw [hother, htogether]
    exact forall_congr' fun step => by rw [hsame step]

/-- An expectation that holds and one that is misused fail in either order, and change nothing. -/
theorem expectations_change_nothing_of_status :
    let context : Context := { Context.new .standard with response := some ⟨200, [], .empty⟩ }
    let status : Step := (ExpectChain.expect.status.statusIs (.equal (.int 200)) rfl).step
    let misused : Step := ExpectChain.expect.body.step
    (∀ step ∈ [status, misused], step.IsExpectation) ∧
      (∃ outcome, doSteps [status, misused] context = .ok outcome context) ∧
      (Succeeds [status, misused] context ↔ ∀ step ∈ [status, misused], Succeeds [step] context) ∧
      (∀ step, step ∈ [misused, status, status] ↔ step ∈ [status, misused]) ∧
      (Succeeds [misused, status, status] context ↔ Succeeds [status, misused] context) := by
  intro context status misused
  have hsteps : ∀ step ∈ [status, misused], step.IsExpectation :=
    List.forall_mem_cons.2 ⟨.of_chain rfl, List.forall_mem_singleton.2 (.of_chain rfl)⟩
  have hsame : ∀ step, step ∈ [misused, status, status] ↔ step ∈ [status, misused] := by
    intro step
    simp only [List.mem_cons, List.not_mem_nil, or_false, or_self]
    exact or_comm
  obtain ⟨hrun, halone, hother⟩ := expectations_change_nothing_in_any_order hsteps context
  exact ⟨hsteps, hrun, halone, hsame, hother _ hsame⟩

end Run

end HttpTest
