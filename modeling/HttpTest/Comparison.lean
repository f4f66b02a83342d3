import HttpTest.Coercion
import HttpTest.Value.Text
import HttpTest.Text.Difference

/-!
# Comparison

Every assertion ends in one of these checks. An actual value is first coerced into the shape of the
expected one; what does not hold is reported as a `Mismatch`.
-/

namespace HttpTest

open Number (Binary64)

inductive Mismatch where
  /-- The values differ after coercion; composite values come with the difference of their lines. -/
  | notEqual (expected actual : Value) (difference : Option String)
  | equal (value : Value)
  | notContained (haystack needle : Value)
  | contained (haystack needle : Value)
  | length (value : Value) (expected actual : Nat)
  | notEmpty (value : Value) (count : Nat)
  | empty (value : Value)
  | notMeasurable (value : Value)
  | coercion (error : CoercionError)
  deriving DecidableEq

namespace Mismatch

def message : Mismatch → String
  | .notEqual expected actual difference =>
      "Not equal\nexpected: " ++ expected.text ++ "\nactual: " ++ actual.text ++
        match difference with
        | some lines => "\ndiff:\n" ++ lines
        | none => ""
  | .equal value => "should not be " ++ value.text
  | .notContained haystack needle => haystack.text ++ " does not contain " ++ needle.text
  | .contained haystack needle => haystack.text ++ " should not contain " ++ needle.text
  | .length value expected actual =>
      value.text ++ " should have " ++ toString expected ++ " item(s), but has " ++ toString actual
        ++ " item(s)"
  | .notEmpty value count =>
      value.text ++ " should be empty, but has " ++ toString count ++ " item(s)"
  | .empty value => value.text ++ " should not be empty"
  | .notMeasurable value => "called Len() on " ++ value.text
  | .coercion error => error.message

def isCoercion : Mismatch → Bool
  | .coercion _ => true
  | _ => false

end Mismatch

namespace Value

mutual

/-- Equality of what values denote. An integer and a double are compared as doubles, maps and
records by name and not by order. -/
def equiv : Value → Value → Bool
  | .int x, .float y => Binary64.ofInt x.toInt == y
  | .float x, .int y => Binary64.ofInt y.toInt == x
  | .list xs, .list ys => xs.length == ys.length && equivItems xs ys
  | .map xs, .map ys => xs.length == ys.length && equivEntries xs ys
  | .record n xs, .record m ys => n == m && xs.length == ys.length && equivEntries xs ys
  | a, b => a == b

/-- Whether the items at the same positions are equivalent, as far as both lists go. -/
def equivItems : List Value → List Value → Bool
  | x :: xs, y :: ys => equiv x y && equivItems xs ys
  | _, _ => true

/-- Whether each entry has an equivalent one of the same name, the first of that name. -/
def equivEntries : List (String × Value) → List (String × Value) → Bool
  | [], _ => true
  | (key, x) :: xs, ys =>
      (match Dictionary.find? key ys with
        | some y => equiv x y
        | none => false) && equivEntries xs ys

end

/-- The difference between the expanded texts of two values, if one of them is composite. -/
def difference (expected actual : Value) : Option String :=
  if !expected.kind.isComposite && !actual.kind.isComposite then none
  else some (String.ofList
    (Text.joinWith ['\n'] (Text.difference expected.expanded actual.expanded)))

/-- The text that a value is searched for as. -/
def term? (needle : Value) : Option String :=
  match needle.coerceTo .string with
  | .ok (.string s) => some s
  | _ => none

/-- Whether a value is, after coercion into the shape of `item`, equivalent to it. -/
def matchesItem (needle item : Value) : Bool :=
  match needle.coerce item with
  | .ok n => item.equiv n
  | .error _ => false

/-- Whether a value contains another: a text a part of it, a list an equal item, a map a key and a
record a field name. Nothing else contains anything, except that `null` contains `null`. -/
def contains (haystack needle : Value) : Bool :=
  match haystack, needle with
  | .null, .null => true
  | .null, _ => false
  | _, .null => false
  | .string s, needle => needle.term?.any fun term => Text.occursIn term.toList s.toList
  | .list items, needle => items.any (needle.matchesItem ·)
  | .map entries, needle => needle.term?.any fun term => entries.any (·.1 == term)
  | .record _ fields, needle => needle.term?.any fun term => fields.any (·.1 == term)
  | _, _ => false

/-- The number of characters, items or entries. -/
def length? : Value → Option Nat
  | .string s => some s.toList.length
  | .list items => some items.length
  | .map entries => some entries.length
  | _ => none

def oneOf (candidates : List Value) (value : Value) : Bool := (Value.list candidates).contains value

end Value

abbrev Check := Except Mismatch Unit

namespace Check

/-- The actual value equals the expected one after coercion into its shape. -/
def equal (expected actual : Value) : Check :=
  match actual.coerce expected with
  | .error e => .error (.coercion e)
  | .ok converted =>
    if expected.equiv converted then .ok ()
    else .error (.notEqual expected converted (expected.difference converted))

/-- The actual value can be coerced into the shape of the expected one and differs from it. -/
def notEqual (expected actual : Value) : Check :=
  match actual.coerce expected with
  | .error e => .error (.coercion e)
  | .ok converted => if expected.equiv converted then .error (.equal expected) else .ok ()

def contains (haystack needle : Value) : Check :=
  if haystack.contains needle then .ok () else .error (.notContained haystack needle)

def notContains (haystack needle : Value) : Check :=
  if haystack.contains needle then .error (.contained haystack needle) else .ok ()

def oneOf (candidates : List Value) (value : Value) : Check := contains (.list candidates) value

def notOneOf (candidates : List Value) (value : Value) : Check :=
  notContains (.list candidates) value

def length (value : Value) : Except Mismatch Nat :=
  match value.length? with
  | some n => .ok n
  | none => .error (.notMeasurable value)

def hasLength (value : Value) (expected : Nat) : Check :=
  match length value with
  | .error e => .error e
  | .ok actual => if actual = expected then .ok () else .error (.length value expected actual)

def empty (value : Value) : Check :=
  match length value with
  | .error e => .error e
  | .ok n => if n = 0 then .ok () else .error (.notEmpty value n)

def notEmpty (value : Value) : Check :=
  match length value with
  | .error e => .error e
  | .ok n => if n = 0 then .error (.empty value) else .ok ()

end Check

end HttpTest
