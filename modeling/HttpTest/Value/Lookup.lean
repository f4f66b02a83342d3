import HttpTest.Value.Basic
import HttpTest.Number.Text
import HttpTest.Text.Basic

/-!
# Looking into values

A dotted expression names an entry of a value, an entry of that, and so on: map keys and record
fields by name, list items by position. The empty expression is the value itself.
-/

namespace HttpTest.Value

/-- The entry of a value under one name. Of a repeated field the first one counts. -/
def entry? (value : Value) (name : List Char) : Option Value :=
  match value with
  | .map entries => Dictionary.find? (String.ofList name) entries
  | .record _ fields => Dictionary.find? (String.ofList name) fields
  | .list items => (Number.readUnsigned? name).bind fun i => items[i]?
  | _ => none

def follow? (value : Value) : List (List Char) → Option Value
  | [] => some value
  | name :: names => (value.entry? name).bind (follow? · names)

def lookup? (value : Value) (expression : String) : Option Value :=
  if expression.isEmpty then some value
  else value.follow? (Text.splitAtChar '.' expression.toList)

end HttpTest.Value
