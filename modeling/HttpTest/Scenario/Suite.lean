import HttpTest.Scenario.Expectation
import HttpTest.Chain.Send
import HttpTest.Chain.Clear
import HttpTest.Chain.Setup
import HttpTest.Run.Pipeline

/-!
# Scenarios

A suite is a list of scenarios with what they have in common. Each stands for a list of steps in
which the common ones come first, so that a scenario can clear those it does not want.
-/

namespace HttpTest

/-- Which common expectations a scenario does not want. -/
inductive ClearTarget where
  | status
  | headers
  | body
  | json
  | all
  deriving DecidableEq

namespace ClearTarget

def names : List (String × ClearTarget) :=
  [("status", .status), ("headers", .headers), ("body", .body), ("json", .json), ("all", .all)]

def steps : ClearTarget → List Step
  | .status => [ClearChain.clear.expect.status.step]
  | .headers => [(ClearChain.clear.expect.header []).step, ClearChain.clear.expect.headers.step]
  | .body => [ClearChain.clear.expect.body.step]
  | .json => [ClearChain.clear.expect.body.json.step]
  | .all => [ClearChain.clear.expect.step]

end ClearTarget

structure Defaults where
  /-- A dictionary. -/
  headers : List (String × String)
  expectations : List Expectation

structure Scenario where
  description : String
  /-- The name of the request method, as it is written. -/
  method : String
  url : String
  /-- A dictionary. -/
  headers : List (String × String)
  body : Option String
  /-- The document to send, in place of a body. -/
  json : Option Value
  clear : List ClearTarget
  expectations : List Expectation

structure Suite where
  baseUrl : Option String
  defaults : Defaults
  scenarios : List Scenario

inductive ScenarioFault where
  | unknownMethod (description name : String)
  | wrongDefault (fault : ExpectationFault)
  | wrongExpectation (description : String) (fault : ExpectationFault)
  | twoBodies (description : String)
  | unusable (step : Step) (fault : Fault)

/-- What is wrong, followed by its causes. -/
def ScenarioFault.causes : ScenarioFault → List String
  | .unknownMethod description name => [description ++ ": " ++ Method.unknownMessage name]
  | .wrongDefault fault => ["invalid default expectation", fault.message]
  | .wrongExpectation description fault =>
      [description ++ ": invalid expectation", fault.message]
  | .twoBodies description => [description ++ ": body and json are exclusive"]
  | .unusable step fault => [step.call ++ ": " ++ fault.message]

def ScenarioFault.message (fault : ScenarioFault) : String := String.intercalate ": " fault.causes

def headerSteps (headers : List (String × String)) : List Step :=
  headers.map fun (name, value) => (SendChain.send.header name value).step

namespace Scenario

def bodySteps (scenario : Scenario) : Except ScenarioFault (List Step) :=
  match scenario.body, scenario.json with
  | some _, some _ => .error (.twoBodies scenario.description)
  | some body, none => .ok [(SendChain.send.bodyValue (.string body)).step]
  | none, some document => .ok [(SendChain.send.json document).step]
  | none, none => .ok []

end Scenario

namespace Suite

def setupSteps (suite : Suite) (scenario : Scenario) (method : Method) : List Step :=
  (SetupCall.description scenario.description).step ::
    (suite.baseUrl.map fun url => (SetupCall.baseUrl url).step).toList
    ++ [(SetupCall.method method scenario.url).step]

/-- The steps of a scenario: the request, what all scenarios have in common, what is cleared of it,
and what is the scenario's own. -/
def steps (suite : Suite) (scenario : Scenario) : Except ScenarioFault (List Step) := do
  let method ← match Method.ofName? scenario.method with
    | some method => pure method
    | none => throw (.unknownMethod scenario.description scenario.method)
  let common ← (suite.defaults.expectations.mapM Expectation.step).mapError .wrongDefault
  let body ← scenario.bodySteps
  let own ← (scenario.expectations.mapM Expectation.step).mapError
    (.wrongExpectation scenario.description)
  pure <|
    suite.setupSteps scenario method ++ headerSteps suite.defaults.headers ++ common
      ++ scenario.clear.flatMap ClearTarget.steps
      ++ headerSteps scenario.headers ++ body ++ own

end Suite

/-- The phase and the call of each step that runs, in order. -/
def resolvedCalls (steps : List Step) : Except ScenarioFault (List (Phase × String)) :=
  match Pipeline.resolve steps with
  | .ok steps => .ok (steps.map fun step => (step.phase, step.call))
  | .error (step, fault) => .error (.unusable step fault)

def Suite.calls (suite : Suite) (scenario : Scenario) :
    Except ScenarioFault (List (Phase × String)) := do
  resolvedCalls (← suite.steps scenario)

end HttpTest
