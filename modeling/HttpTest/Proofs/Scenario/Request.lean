import HttpTest.Run.Standalone
import HttpTest.Proofs.Http.Request
import HttpTest.Proofs.Run.Request
import HttpTest.Proofs.Scenario.Resolution

/-!
# The request of a scenario

A scenario hands over one request. It is built from the scenario, what the suite has in common and
the settings, in layers (`Scenario.requestIn`); the expectations and what is cleared have no part
in it.
-/

namespace HttpTest

open Pipeline

/-! ## Expectations check -/

theorem Criterion.checks_of_step {criterion : Criterion} {target : Target} {step : Step}
    (h : criterion.step target = .ok step) (hrun : ∀ message, step.action ≠ .fail message) :
    step.Checks := by
  obtain ⟨assertion, chain, -, hasserts, rfl⟩ := Criterion.step_eq_ok_iff.1 h
  cases hasserts with
  | status | body | json | header => exact ⟨_, rfl⟩
  | oneHeader => cases assertion <;> exact ⟨_, rfl⟩
  | allHeaders =>
    -- without a name there are no candidates to give
    cases assertion with
    | oneOf candidates => exact absurd rfl (hrun _)
    | notOneOf candidates => exact absurd rfl (hrun _)
    | _ => exact ⟨_, rfl⟩

theorem exists_effect_of_mem_headerSteps {headers : List (String × String)} {step : Step}
    (h : step ∈ headerSteps headers) :
    ∃ effect, step.action = .run effect ∧ effect.phase? = some .send := by
  obtain ⟨⟨name, value⟩, _, rfl⟩ := List.mem_map.1 h
  exact ⟨_, rfl, rfl⟩

section

variable {suite : Suite} {scenario : Scenario} {transport : Transport} {method : Method}
  {body : List Step} (hbody : scenario.bodySteps = .ok body)

include hbody

theorem Scenario.exists_effect_of_mem_bodySteps {step : Step} (h : step ∈ body) :
    ∃ effect, step.action = .run effect ∧ effect.phase? = some .send := by
  rw [bodySteps_eq hbody, List.mem_append, Option.mem_toList, Option.mem_toList,
    Option.map_eq_some_iff, Option.map_eq_some_iff] at h
  rcases h with ⟨text, _, rfl⟩ | ⟨document, _, rfl⟩
  · exact ⟨_, rfl, rfl⟩
  · exact ⟨_, rfl, rfl⟩

end

end HttpTest
