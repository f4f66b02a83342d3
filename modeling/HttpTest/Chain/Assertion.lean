import HttpTest.Comparison
import HttpTest.Value.Json

/-!
# Assertions

An assertion is an operator with its operands. Not every part of a response supports every operator.
-/

namespace HttpTest

inductive Operator where
  | equal
  | notEqual
  | contains
  | notContains
  | oneOf
  | notOneOf
  | length
  | empty
  | notEmpty
  deriving DecidableEq

namespace Operator

def all : List Operator :=
  [.equal, .notEqual, .contains, .notContains, .oneOf, .notOneOf, .length, .empty, .notEmpty]

def name : Operator → String
  | .equal => "equal"
  | .notEqual => "not_equal"
  | .contains => "contains"
  | .notContains => "not_contains"
  | .oneOf => "one_of"
  | .notOneOf => "not_one_of"
  | .length => "len"
  | .empty => "empty"
  | .notEmpty => "not_empty"

def ofName? (name : String) : Option Operator := all.find? (·.name = name)

def takesArguments : Operator → Bool
  | .empty | .notEmpty => false
  | _ => true

end Operator

inductive Assertion where
  | equal (expected : Value)
  | notEqual (expected : Value)
  | contains (needle : Value)
  | notContains (needle : Value)
  | oneOf (candidates : List Value)
  | notOneOf (candidates : List Value)
  | length (size : UInt64)
  | empty
  | notEmpty
  deriving DecidableEq

namespace Assertion

def operator : Assertion → Operator
  | .equal _ => .equal
  | .notEqual _ => .notEqual
  | .contains _ => .contains
  | .notContains _ => .notContains
  | .oneOf _ => .oneOf
  | .notOneOf _ => .notOneOf
  | .length _ => .length
  | .empty => .empty
  | .notEmpty => .notEmpty

def arguments : Assertion → List Value
  | .equal v | .notEqual v | .contains v | .notContains v => [v]
  | .oneOf vs | .notOneOf vs => vs
  | .length n => [.ofInt n.toNat]
  | .empty | .notEmpty => []

def check (assertion : Assertion) (actual : Value) : Check :=
  match assertion with
  | .equal expected => Check.equal expected actual
  | .notEqual expected => Check.notEqual expected actual
  | .contains needle => Check.contains actual needle
  | .notContains needle => Check.notContains actual needle
  | .oneOf candidates => Check.oneOf candidates actual
  | .notOneOf candidates => Check.notOneOf candidates actual
  | .length size => Check.hasLength actual size.toNat
  | .empty => Check.empty actual
  | .notEmpty => Check.notEmpty actual

/-- The assertion with its needle, if it looks for one, replaced. -/
def mapNeedle (f : Value → Value) : Assertion → Assertion
  | .contains needle => .contains (f needle)
  | .notContains needle => .notContains (f needle)
  | assertion => assertion

end Assertion

inductive Target where
  | status
  | header
  | headers
  | body
  | json
  deriving DecidableEq

namespace Target

def all : List Target := [.status, .header, .headers, .body, .json]

def name : Target → String
  | .status => "status"
  | .header => "header"
  | .headers => "headers"
  | .body => "body"
  | .json => "json"

def supports : Target → Operator → Bool
  | .status, .equal | .status, .notEqual | .status, .oneOf | .status, .notOneOf => true
  | .status, _ => false
  | .body, .equal | .body, .notEqual | .body, .contains | .body, .notContains => true
  | .body, _ => false
  | .json, .equal | .json, .notEqual | .json, .contains | .json, .notContains => true
  | .json, _ => false
  | .header, _ => true
  | .headers, _ => true

end Target

end HttpTest
