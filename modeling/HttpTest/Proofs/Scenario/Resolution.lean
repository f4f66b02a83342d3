import HttpTest.Proofs.Chain.Mirror
import HttpTest.Proofs.Scenario.Document
import HttpTest.Proofs.Scenario.Expectation

/-!
# What a scenario resolves to

The common expectations of a suite come before the clear steps of a scenario and everything that is
its own comes after them. So a scenario clears the common expectations on the parts of the response
that it names (`ClearTarget.covers`), and nothing else.
-/

namespace HttpTest

open Pipeline

/-! ## What a target covers -/

/-- Whether an expectation on a part of the response is cleared with a target. -/
def ClearTarget.covers : ClearTarget → Target → Bool
  | .status, .status => true
  | .headers, .header | .headers, .headers => true
  | .body, .body | .body, .json => true
  | .json, .json => true
  | .all, _ => true
  | _, _ => false

/-- The part of the response that an expectation is about, if it names one only. -/
def Expectation.target? (expectation : Expectation) : Option Target :=
  match expectation.criteria with
  | [(target, _)] => some target
  | _ => none

def Scenario.clears (scenario : Scenario) (expectation : Expectation) : Bool :=
  scenario.clear.any fun cleared => expectation.target?.any cleared.covers

def Target.calls : Target → List String
  | .status => ["expect", "status"]
  | .header => ["expect", "header"]
  | .headers => ["expect", "headers"]
  | .body => ["expect", "body"]
  | .json => ["expect", "body", "json"]

def ClearTarget.calls : ClearTarget → List (List String)
  | .status => [["expect", "status"]]
  | .headers => [["expect", "header"], ["expect", "headers"]]
  | .body => [["expect", "body"]]
  | .json => [["expect", "body", "json"]]
  | .all => [["expect"]]

theorem ClearTarget.isClear_of_mem_steps {cleared : ClearTarget} {step : Step}
    (h : step ∈ cleared.steps) : step.isClear = true := by
  have hall : cleared.steps.all Step.isClear = true := by cases cleared <;> rfl
  exact List.all_eq_true.1 hall step h

theorem Expectation.exists_of_step {expectation : Expectation} {step : Step}
    (h : expectation.step = .ok step) :
    ∃ (target : Target) (criterion : Criterion),
      expectation.target? = some target ∧ criterion.step target = .ok step := by
  obtain ⟨target, criterion, hcriteria, hstep⟩ := step_eq_ok_iff.1 h
  exact ⟨target, criterion, by rw [target?, hcriteria], hstep⟩

theorem Suite.exists_of_steps {suite : Suite} {scenario : Scenario} {steps : List Step}
    (h : suite.steps scenario = .ok steps) :
    ∃ method common body own, Method.ofName? scenario.method = some method ∧
      suite.defaults.expectations.mapM Expectation.step = .ok common ∧
      scenario.bodySteps = .ok body ∧ scenario.expectations.mapM Expectation.step = .ok own ∧
      steps = suite.setupSteps scenario method ++ headerSteps suite.defaults.headers ++ common
        ++ scenario.clear.flatMap ClearTarget.steps
        ++ headerSteps scenario.headers ++ body ++ own := by
  unfold Suite.steps at h
  cases hmethod : Method.ofName? scenario.method with
  | none =>
    rw [hmethod] at h
    cases h
  | some method =>
    rw [hmethod] at h
    obtain ⟨_, hpure, h⟩ := Result.exists_of_bind h
    cases hpure
    obtain ⟨common, hcommon, h⟩ := Result.exists_of_bind h
    obtain ⟨body, hbody, h⟩ := Result.exists_of_bind h
    obtain ⟨own, hown, h⟩ := Result.exists_of_bind h
    exact ⟨method, common, body, own, rfl, Result.eq_ok_of_mapError hcommon, hbody,
      Result.eq_ok_of_mapError hown, (Except.ok.inj h).symm⟩

theorem Scenario.bodySteps_eq {scenario : Scenario} {steps : List Step}
    (h : scenario.bodySteps = .ok steps) :
    steps = (scenario.body.map fun body => (SendChain.send.bodyValue (.string body)).step).toList
      ++ (scenario.json.map fun document => (SendChain.send.json document).step).toList := by
  unfold Scenario.bodySteps at h
  split at h
  next => cases h
  -- at most one of the two is given, and the other list is empty
  all_goals
    rename_i hbody hjson
    cases h
    rw [hbody, hjson]
    rfl

end HttpTest
