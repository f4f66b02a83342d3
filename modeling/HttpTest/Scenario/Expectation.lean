import HttpTest.Chain.Expect

/-!
# Expectations of a scenario

An expectation names one part of the response and states one thing about it. As it is written it may
name none or several of either; `Expectation.step` gives the step it stands for, or says what is
wrong.
-/

namespace HttpTest

structure Criterion where
  /-- The header it is about. -/
  name : Option String
  /-- Where in the document the value is found. -/
  path : String
  equal : Option Value
  notEqual : Option Value
  contains : Option Value
  notContains : Option Value
  oneOf : Option (List Value)
  notOneOf : Option (List Value)
  length : Option UInt64
  empty : Bool
  notEmpty : Bool

structure Expectation where
  status : Option Criterion
  header : Option Criterion
  headers : Option Criterion
  body : Option Criterion
  json : Option Criterion

inductive ExpectationFault where
  | noOperator
  | severalOperators (count : Nat)
  | unsupported (target : Target) (operator : Operator)
  | unnamedHeader
  | notOneTarget
  deriving DecidableEq

def ExpectationFault.message : ExpectationFault → String
  | .noOperator =>
      "a check needs one of equal, not_equal, contains, not_contains, one_of, not_one_of, len, "
        ++ "empty or not_empty"
  | .severalOperators count => "a check takes a single operator, found " ++ toString count
  | .unsupported target operator => target.name ++ " does not support " ++ operator.name
  | .unnamedHeader => "header checks need a name"
  | .notOneTarget =>
      "an expectation needs exactly one of status, header, headers, body or json"

namespace Criterion

def blank : Criterion := ⟨none, "", none, none, none, none, none, none, none, false, false⟩

def assertions (criterion : Criterion) : List Assertion :=
  (criterion.equal.map .equal).toList ++ (criterion.notEqual.map .notEqual).toList
    ++ (criterion.contains.map .contains).toList ++ (criterion.notContains.map .notContains).toList
    ++ (criterion.oneOf.map .oneOf).toList ++ (criterion.notOneOf.map .notOneOf).toList
    ++ (criterion.length.map .length).toList
    ++ (if criterion.empty then [.empty] else [])
    ++ (if criterion.notEmpty then [.notEmpty] else [])

/-- The one thing that is stated. -/
def assertion (criterion : Criterion) : Except ExpectationFault Assertion :=
  match criterion.assertions with
  | [assertion] => .ok assertion
  | [] => .error .noOperator
  | assertions => .error (.severalOperators assertions.length)

def supportedAssertion (criterion : Criterion) (target : Target) :
    Except ExpectationFault { assertion : Assertion // target.supports assertion.operator } :=
  match criterion.assertion with
  | .error fault => .error fault
  | .ok assertion =>
    if supported : target.supports assertion.operator then .ok ⟨assertion, supported⟩
    else .error (.unsupported target assertion.operator)

def step (criterion : Criterion) : Target → Except ExpectationFault Step
  | .status =>
    (criterion.supportedAssertion .status).map fun ⟨assertion, supported⟩ =>
      (ExpectChain.expect.status.statusIs assertion supported).step
  | .body =>
    (criterion.supportedAssertion .body).map fun ⟨assertion, supported⟩ =>
      (ExpectChain.expect.body.bodyIs assertion supported).step
  | .json =>
    (criterion.supportedAssertion .json).map fun ⟨assertion, supported⟩ =>
      (ExpectChain.expect.body.json.jsonIs criterion.path assertion supported).step
  | .header =>
    match criterion.name with
    | none => .error .unnamedHeader
    | some name =>
      criterion.assertion.map fun assertion =>
        ((ExpectChain.expect.header name).headerIs assertion).step
  | .headers =>
    let scope := match criterion.name with
      | some name => ExpectChain.expect.headers.get name
      | none => ExpectChain.expect.headers
    criterion.assertion.map fun assertion => (scope.headersAre assertion).step

end Criterion

namespace Expectation

def blank : Expectation := ⟨none, none, none, none, none⟩

/-- The parts of the response that are named, each with what is stated about it. -/
def criteria (expectation : Expectation) : List (Target × Criterion) :=
  (expectation.status.map (Target.status, ·)).toList
    ++ (expectation.header.map (Target.header, ·)).toList
    ++ (expectation.headers.map (Target.headers, ·)).toList
    ++ (expectation.body.map (Target.body, ·)).toList
    ++ (expectation.json.map (Target.json, ·)).toList

def step (expectation : Expectation) : Except ExpectationFault Step :=
  match expectation.criteria with
  | [(target, criterion)] => criterion.step target
  | _ => .error .notOneTarget

end Expectation

end HttpTest
