import HttpTest.Proofs.Run.Service
import HttpTest.Proofs.Scenario.Request
import HttpTest.Scenario.Execution

/-!
# Scenarios one after the other

The steps of a scenario keep to the service that they find. If that has no memory, each scenario of
a suite ends as if it were run alone (`Suite.exists_outcome_alone`), and running the suite gives
these outcomes in order, up to a scenario that stands for no steps or, if asked for, up to the first
failure (`Suite.executeOver_runs_alone`).
-/

namespace HttpTest

/-! ## What the steps of a scenario do -/

theorem Step.keepsService_of_effect {step : Step} {effect : Effect}
    (haction : step.action = .run effect) (h : effect.KeepsService) : step.KeepsService := by
  intro other hother
  rw [haction] at hother
  cases hother
  exact h

theorem Step.Checks.keepsService {step : Step} (h : step.Checks) : step.KeepsService := by
  obtain ⟨test, haction⟩ := h
  exact keepsService_of_effect haction ⟨Option.some_ne_none _, rfl⟩

theorem Step.keepsService_of_send {step : Step}
    (h : ∃ effect, step.action = .run effect ∧ effect.phase? = some .send) :
    step.KeepsService := by
  obtain ⟨effect, haction, hphase⟩ := h
  have hsetup : effect.phase? ≠ some .setup := by
    rw [hphase]
    decide
  have hnone : effect.phase? ≠ none := by
    rw [hphase]
    exact Option.some_ne_none _
  exact keepsService_of_effect haction ⟨hnone, Effect.transport?_eq_none hsetup⟩

theorem Step.keepsService_of_isClear {step : Step} (h : step.isClear = true) :
    step.KeepsService := by
  intro effect haction
  rw [isClear, haction] at h
  cases h

theorem Expectation.keepsService_of_step {expectation : Expectation} {step : Step}
    (h : expectation.step = .ok step) : step.KeepsService := by
  obtain ⟨target, criterion, _, hcriterion⟩ := exists_of_step h
  intro effect haction
  have hrun : ∀ message, step.action ≠ .fail message := by
    intro message hfail
    rw [haction] at hfail
    cases hfail
  exact (criterion.checks_of_step hcriterion hrun).keepsService effect haction

theorem Suite.keepsService_of_mem_setupSteps {suite : Suite} {scenario : Scenario}
    {method : Method} {step : Step} (h : step ∈ suite.setupSteps scenario method) :
    step.KeepsService := by
  rw [setupSteps, List.mem_append, List.mem_cons, List.mem_singleton, Option.mem_toList,
    Option.map_eq_some_iff] at h
  rcases h with (rfl | ⟨url, _, rfl⟩) | rfl
  · exact Step.keepsService_of_effect rfl ⟨Option.some_ne_none _, rfl⟩
  · exact Step.keepsService_of_effect rfl ⟨Option.some_ne_none _, rfl⟩
  · exact Step.keepsService_of_effect rfl ⟨Option.some_ne_none _, rfl⟩

/-- No step of a scenario installs a transport or runs a callback. -/
theorem Suite.keepsService_of_steps {suite : Suite} {scenario : Scenario} {steps : List Step}
    (h : suite.steps scenario = .ok steps) : ∀ step ∈ steps, step.KeepsService := by
  obtain ⟨method, common, body, own, _, hcommon, hbody, hown, rfl⟩ := exists_of_steps h
  have hexpectations : ∀ {expectations : List Expectation} {checks : List Step},
      expectations.mapM Expectation.step = .ok checks → ∀ step ∈ checks, step.KeepsService :=
    fun hchecks => Result.forall_of_mapM hchecks fun _ _ _ hstep =>
      Expectation.keepsService_of_step hstep
  have hheaders : ∀ headers : List (String × String), ∀ step ∈ headerSteps headers,
      step.KeepsService := fun _ _ hstep =>
    Step.keepsService_of_send (exists_effect_of_mem_headerSteps hstep)
  simp only [List.forall_mem_append]
  refine ⟨⟨⟨⟨⟨⟨?_, hheaders _⟩, hexpectations hcommon⟩, ?_⟩, hheaders _⟩, ?_⟩, hexpectations hown⟩
  · exact fun _ hstep => keepsService_of_mem_setupSteps hstep
  · intro step hstep
    obtain ⟨target, _, hmem⟩ := List.mem_flatMap.1 hstep
    exact Step.keepsService_of_isClear (ClearTarget.isClear_of_mem_steps hmem)
  · exact fun _ hstep =>
      Step.keepsService_of_send (Scenario.exists_effect_of_mem_bodySteps hbody hstep)

/-! ## Each scenario alone -/

def Outcome.result (outcome : Outcome) : Except Failure Unit :=
  match outcome.failure with
  | some failure => .error failure
  | none => .ok ()

/-- The scenario has steps, and running them alone over the service ends as the outcome says. -/
def Suite.EndsAlone (suite : Suite) (config : Config) (service : Option Connection)
    (scenario : Scenario) (outcome : Outcome) : Prop :=
  outcome.description = scenario.description ∧
    ∃ steps after, suite.steps scenario = .ok steps ∧
      runOver service config steps = .ok outcome.result after

/-- The outcomes up to the first failure and with it, or all of them if there is none. -/
def Outcome.untilFailure (outcomes : List Outcome) : List Outcome :=
  outcomes.take (outcomes.findIdx (!·.passed) + 1)

theorem Outcome.untilFailure_cons (outcome : Outcome) (outcomes : List Outcome) :
    untilFailure (outcome :: outcomes)
      = if outcome.passed then outcome :: untilFailure outcomes else [outcome] := by
  cases h : outcome.passed <;> simp [untilFailure, List.findIdx_cons, h]

theorem Outcome.untilFailure_of_all {outcomes : List Outcome}
    (h : outcomes.all (·.passed) = true) : untilFailure outcomes = outcomes := by
  induction outcomes with
  | nil => rfl
  | cons outcome outcomes ih =>
    rw [List.all_cons, Bool.and_eq_true] at h
    rw [untilFailure_cons, if_pos h.1, ih h.2]

namespace Execution

/-- An execution with some outcomes before its own. -/
def behind (outcomes : List Outcome) (rest : Execution) : Execution :=
  ⟨outcomes.map (·.description) ++ rest.begun, rest.outcomes.map (outcomes ++ ·)⟩

/-- An execution that comes to an end with some outcomes. -/
def ended (outcomes : List Outcome) : Execution := ⟨outcomes.map (·.description), .ok outcomes⟩

theorem behind_nil (rest : Execution) : rest.behind [] = rest := by
  obtain ⟨begun, outcomes⟩ := rest
  cases outcomes <;> rfl

theorem behind_cons (outcome : Outcome) (outcomes : List Outcome) (rest : Execution) :
    rest.behind (outcome :: outcomes) = (rest.behind outcomes).behind [outcome] := by
  obtain ⟨begun, ends⟩ := rest
  cases ends <;> rfl

theorem behind_ended_nil (outcomes : List Outcome) : (ended []).behind outcomes = ended outcomes := by
  show Execution.mk (_ ++ []) (.ok (outcomes ++ [])) = _
  rw [List.append_nil, List.append_nil]
  rfl

end Execution

namespace Suite

variable {suite : Suite} {service : Option Connection} {scenario : Scenario} (config : Config)

/-- Over a service without memory a scenario ends as it does alone, whatever the service was handed
before, and what comes next finds the same service. -/
theorem exists_outcome_alone
    (hservice : ∀ connection ∈ service, connection.transport.Memoryless) {steps : List Step}
    (hsteps : suite.steps scenario = .ok steps) {current : Option Connection}
    (hcurrent : current.map (·.transport) = service.map (·.transport)) :
    ∃ outcome next, suite.EndsAlone config service scenario outcome ∧
      next.map (·.transport) = service.map (·.transport) ∧
      ∀ failFast scenarios,
        suite.runInTurn config failFast current (scenario :: scenarios) =
          if failFast && !outcome.passed then .ended [outcome]
          else .behind [outcome] (suite.runInTurn config failFast next scenarios) := by
  have hmemoryless : ∀ transport ∈ service.map (·.transport), transport.Memoryless := by
    intro transport htransport
    obtain ⟨connection, hconnection, rfl⟩ := Option.map_eq_some_iff.1 htransport
    exact hservice connection hconnection
  -- alone and in its turn the scenario starts with the same service
  have halike := alike_runOver (keepsService_of_steps hsteps) hmemoryless config rfl hcurrent
  generalize halone : runOver service config steps = alone at halike
  generalize hturn : runOver current config steps = turn at halike
  cases halike with
  | @ok result left right hafter =>
    let failure? : Option Failure := Ended.failure? (.ok result right)
    have hresult : (Outcome.mk scenario.description failure?).result = result := by
      cases result <;> rfl
    refine ⟨⟨scenario.description, failure?⟩, right.connection, ⟨rfl, steps, left, hsteps, ?_⟩,
      hafter.right_service, fun failFast scenarios => ?_⟩
    · rw [halone, hresult]
    · rw [runInTurn, hsteps]
      dsimp only
      rw [hturn]
      rfl

/-- Scenarios that all have steps end one after the other as they do alone. What comes behind them
is run too, unless a failure among them is the end. -/
theorem exists_outcomes_alone
    (hservice : ∀ connection ∈ service, connection.transport.Memoryless) {runnable : List Scenario}
    (hrunnable : ∀ scenario ∈ runnable, ∃ steps, suite.steps scenario = .ok steps)
    {current : Option Connection}
    (hcurrent : current.map (·.transport) = service.map (·.transport)) :
    ∃ outcomes next, List.Forall₂ (suite.EndsAlone config service) runnable outcomes ∧
      ∀ failFast rest, suite.runInTurn config failFast current (runnable ++ rest) =
        if failFast && !outcomes.all (·.passed) then .ended (Outcome.untilFailure outcomes)
        else .behind outcomes (suite.runInTurn config failFast next rest) := by
  induction runnable generalizing current with
  | nil =>
    refine ⟨[], current, .nil, fun failFast rest => ?_⟩
    rw [List.all_nil, Bool.not_true, Bool.and_false, if_neg Bool.false_ne_true,
      Execution.behind_nil]
    rfl
  | cons scenario runnable ih =>
    obtain ⟨⟨steps, hsteps⟩, hothers⟩ := List.forall_mem_cons.1 hrunnable
    obtain ⟨outcome, next, halone, hnext, hturn⟩ :=
      exists_outcome_alone config hservice hsteps hcurrent
    obtain ⟨outcomes, last, hall, hrest⟩ := ih hothers hnext
    refine ⟨outcome :: outcomes, last, .cons halone hall, fun failFast rest => ?_⟩
    rw [List.cons_append, hturn, hrest, List.all_cons, Outcome.untilFailure_cons]
    -- without a failure so far it is the others that decide
    cases outcome.passed with
    | false => cases failFast with
      | true => rfl
      | false => exact (Execution.behind_cons _ _ _).symm
    | true =>
      rw [Bool.not_true, Bool.and_false, if_neg Bool.false_ne_true, Bool.true_and, if_pos rfl]
      split
      · rfl
      · exact (Execution.behind_cons _ _ _).symm

theorem map_description_of_endsAlone {config : Config} {scenarios : List Scenario}
    {outcomes : List Outcome}
    (h : List.Forall₂ (suite.EndsAlone config service) scenarios outcomes) :
    outcomes.map (·.description) = scenarios.map (·.description) := by
  induction h with
  | nil => rfl
  | cons hfirst _ ih => rw [List.map_cons, List.map_cons, hfirst.1, ih]

/-- Scenarios that all have steps end as each of them does alone, over a service without memory or
over the network, whatever the others do. If they are all that there is, their outcomes are what
comes of the suite; if the next one has no steps, what is wrong with it is. To stop at the first
failure leaves the outcomes up to that one, unless there is none. Of all scenarios that are begun
the description is announced, in order. -/
theorem executeOver_runs_alone
    (hservice : ∀ connection ∈ service, connection.transport.Memoryless)
    {runnable rest : List Scenario} (hscenarios : suite.scenarios = runnable ++ rest)
    (hrunnable : ∀ scenario ∈ runnable, ∃ steps, suite.steps scenario = .ok steps) :
    ∃ outcomes, List.Forall₂ (suite.EndsAlone config service) runnable outcomes ∧
      (rest = [] →
        suite.executeOver config false service = .ended outcomes ∧
        suite.executeOver config true service = .ended (Outcome.untilFailure outcomes)) ∧
      ∀ scenario others fault, rest = scenario :: others → suite.steps scenario = .error fault →
        suite.executeOver config false service
          = ⟨outcomes.map (·.description) ++ [scenario.description], .error fault⟩ ∧
        suite.executeOver config true service
          = if outcomes.all (·.passed) then
              ⟨outcomes.map (·.description) ++ [scenario.description], .error fault⟩
            else .ended (Outcome.untilFailure outcomes) := by
  obtain ⟨outcomes, next, hall, hturn⟩ :=
    exists_outcomes_alone config hservice hrunnable rfl
  refine ⟨outcomes, hall, ?_, ?_⟩
  · -- no scenario is left behind the runnable ones
    rintro rfl
    have hend : ∀ failFast, (suite.runInTurn config failFast next []).behind outcomes
        = .ended outcomes := fun _ => Execution.behind_ended_nil outcomes
    rw [executeOver, executeOver, hscenarios, hturn, hturn, hend, hend]
    refine ⟨rfl, ?_⟩
    cases hpassed : outcomes.all (·.passed) with
    | true =>
      rw [Outcome.untilFailure_of_all hpassed]
      rfl
    | false => rfl
  · -- the next scenario ends the run with its fault, if it is begun at all
    rintro scenario others fault rfl hfault
    have hend : ∀ failFast, (suite.runInTurn config failFast next (scenario :: others)).behind
        outcomes = ⟨outcomes.map (·.description) ++ [scenario.description], .error fault⟩ := by
      intro failFast
      rw [runInTurn, hfault]
      rfl
    rw [executeOver, executeOver, hscenarios, hturn, hturn, hend, hend]
    refine ⟨rfl, ?_⟩
    cases outcomes.all (·.passed) <;> rfl

/-- The first of three scenarios passes, the second fails, and the third has no steps: with and
without stopping at the failure, over a service that answers every request alike. -/
theorem executeOver_runs_alone_up_to_failure :
    let service := some (Connection.fresh (.respond ⟨204, [], .empty⟩))
    let expecting (description : String) (status : Int64) : Scenario :=
      ⟨description, "GET", "/", [], none, none, [],
        [{ Expectation.blank with
            status := some { Criterion.blank with equal := some (.int status) } }]⟩
    let runnable := [expecting "a" 204, expecting "b" 200]
    let faulty : Scenario := ⟨"c", "PUT", "/", [], some "", some .null, [], []⟩
    let suite : Suite := ⟨some "http://h", ⟨[], []⟩, runnable ++ [faulty]⟩
    ∃ outcomes, List.Forall₂ (suite.EndsAlone .standard service) runnable outcomes ∧
      outcomes.all (·.passed) = false ∧
      suite.executeOver .standard false service = ⟨["a", "b", "c"], .error (.twoBodies "c")⟩ ∧
      suite.executeOver .standard true service = .ended (Outcome.untilFailure outcomes) := by
  intro service expecting runnable faulty suite
  have hservice : ∀ connection ∈ service, connection.transport.Memoryless := by
    intro connection hconnection
    rw [← Option.some.inj hconnection]
    exact Transport.memoryless_ofFunction _
  have hrunnable : ∀ scenario ∈ runnable, ∃ steps, suite.steps scenario = .ok steps := by
    have hall : (runnable.all fun scenario => (suite.steps scenario).isOk) = true := by
      decide +kernel
    intro scenario hscenario
    have hok := List.all_eq_true.1 hall scenario hscenario
    cases hsteps : suite.steps scenario with
    | ok steps => exact ⟨steps, rfl⟩
    | error fault =>
      rw [hsteps] at hok
      cases hok
  have htwo : suite.steps faulty = .error (.twoBodies "c") := by
    subst suite runnable expecting faulty
    rfl
  obtain ⟨outcomes, hall, -, hfault⟩ := executeOver_runs_alone .standard hservice rfl hrunnable
  obtain ⟨hslow, hfast⟩ := hfault faulty [] _ rfl htwo
  rw [map_description_of_endsAlone hall] at hslow hfast
  have hpassed : outcomes.all (·.passed) = false := by
    -- had all of them passed, the third scenario would have been begun
    have hbegun : (suite.executeOver .standard true service).begun = ["a", "b"] := by
      decide +kernel
    rw [← Bool.not_eq_true]
    intro hpassed
    rw [hfast, if_pos hpassed] at hbegun
    cases hbegun
  rw [hpassed] at hfast
  exact ⟨outcomes, hall, hpassed, hslow, hfast⟩

end Suite

end HttpTest
