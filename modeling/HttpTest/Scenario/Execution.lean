import HttpTest.Scenario.Suite
import HttpTest.Run.Standalone

/-!
# Running suites

The scenarios of a suite are run one after the other, each in a context of its own. What they share
is the service that answers their requests.
-/

namespace HttpTest

/-- How a scenario ended. The path of its file comes to it where files are run. -/
structure Outcome where
  description : String
  failure : Option Failure

namespace Outcome

def passed (outcome : Outcome) : Bool := outcome.failure.isNone

end Outcome

/-- What came of running a suite: the descriptions of the scenarios that were begun, and their
outcomes or what was wrong with one of them. -/
structure Execution where
  begun : List String
  outcomes : Except ScenarioFault (List Outcome)

def Ended.failure? (ended : Ended (Except Failure Unit)) : Option Failure :=
  match ended with
  | .ok (.error failure) _ => some failure
  | _ => none

def Ended.context {α : Type} : Ended α → Context
  | .ok _ context | .error _ context => context

namespace Suite

/-- Runs scenarios in order, each in a context of its own. Their requests go to one service, which
may remember them, or to the network if there is none. With `failFast` the first failure is the last
outcome. -/
def runInTurn (suite : Suite) (config : Config) (failFast : Bool) :
    (service : Option Connection) → List Scenario → Execution
  | _, [] => ⟨[], .ok []⟩
  | service, scenario :: scenarios =>
    match suite.steps scenario with
    | .error fault => ⟨[scenario.description], .error fault⟩
    | .ok steps =>
      let ended := runOver service config steps
      let outcome : Outcome := ⟨scenario.description, ended.failure?⟩
      if failFast && !outcome.passed then ⟨[scenario.description], .ok [outcome]⟩
      else
        let rest := runInTurn suite config failFast ended.context.connection scenarios
        ⟨scenario.description :: rest.begun, rest.outcomes.map (outcome :: ·)⟩

def executeOver (suite : Suite) (config : Config) (failFast : Bool) (service : Option Connection) :
    Execution :=
  suite.runInTurn config failFast service suite.scenarios

def execute (suite : Suite) (config : Config) (failFast : Bool) : Execution :=
  suite.executeOver config failFast none

end Suite

end HttpTest
