import HttpTest.Value.Basic
import HttpTest.Json.Basic

/-!
# Values and JSON documents

A record is the object of its fields, and a number that is not finite is `null`. In the other
direction an integer beyond 64 bits is a double.
-/

namespace HttpTest

/-- The value of an integer: a double if it does not fit 64 bits. -/
def Value.ofInt (i : Int) : Value :=
  if -2 ^ 63 ≤ i ∧ i < 2 ^ 63 then .int (Int64.ofInt i) else .float (Number.Binary64.ofInt i)

mutual

def Value.toJson : Value → Json
  | .null => .null
  | .bool b => .bool b
  | .int i => .integer i.toInt
  | .float x => if x.isFinite then .float x else .null
  | .string s => .string s
  | .list items => .array (Value.itemsToJson items)
  | .map entries => .object (Value.entriesToJson entries)
  | .record _ fields => .ofMembers (Value.entriesToJson fields)

def Value.itemsToJson : List Value → List Json
  | [] => []
  | item :: items => item.toJson :: Value.itemsToJson items

def Value.entriesToJson : List (String × Value) → List (String × Json)
  | [] => []
  | (key, value) :: entries => (key, value.toJson) :: Value.entriesToJson entries

end

mutual

def Json.toValue : Json → Value
  | .null => .null
  | .bool b => .bool b
  | .integer i => .ofInt i
  | .float x => .float x
  | .string s => .string s
  | .array items => .list (Json.itemsToValue items)
  | .object members => .map (Json.membersToValue members)

def Json.itemsToValue : List Json → List Value
  | [] => []
  | item :: items => item.toValue :: Json.itemsToValue items

def Json.membersToValue : List (String × Json) → List (String × Value)
  | [] => []
  | (key, member) :: members => (key, member.toValue) :: Json.membersToValue members

end

end HttpTest
