import HttpTest.Value.Basic
import HttpTest.Number.Text
import HttpTest.Text.Quoted

/-!
# Values as text

The compact text of a value is one line as long as no record or field name contains a line break:
strings and map keys are quoted, names stand as they are. The expanded text puts every entry on a
line of its own; it is what two values are compared line by line with.
-/

namespace HttpTest.Value

open Text (quoted)

mutual

def compact : Value → List Char
  | .null => ['n', 'u', 'l', 'l']
  | .bool b => if b then ['t', 'r', 'u', 'e'] else ['f', 'a', 'l', 's', 'e']
  | .int i => Number.intText i.toInt
  | .float x => x.text .exact
  | .string s => quoted s
  | .list [] => ['[', ']']
  | .list (item :: items) => '[' :: compact item ++ compactItems items ++ [']']
  | .map [] => ['{', '}']
  | .map ((key, value) :: entries) =>
      '{' :: quoted key ++ [':', ' '] ++ compact value ++ compactEntries entries ++ ['}']
  | .record name [] => name.toList ++ ['{', '}']
  | .record name ((field, value) :: fields) =>
      name.toList ++ '{' :: field.toList ++ [':', ' '] ++ compact value ++ compactFields fields
        ++ ['}']

def compactItems : List Value → List Char
  | [] => []
  | item :: items => [',', ' '] ++ compact item ++ compactItems items

def compactEntries : List (String × Value) → List Char
  | [] => []
  | (key, value) :: entries =>
      [',', ' '] ++ quoted key ++ [':', ' '] ++ compact value ++ compactEntries entries

def compactFields : List (String × Value) → List Char
  | [] => []
  | (field, value) :: fields =>
      [',', ' '] ++ field.toList ++ [':', ' '] ++ compact value ++ compactFields fields

end

def text (value : Value) : String := String.ofList value.compact

instance : ToString Value := ⟨text⟩

def indentation (depth : Nat) : List Char := List.replicate (2 * depth) ' '

mutual

/-- The expanded text of a value that stands `depth` levels deep. -/
def expandedAt : Nat → Value → List Char
  | depth, .list (item :: items) =>
      ['[', '\n'] ++ indentation (depth + 1) ++ expandedAt (depth + 1) item
        ++ expandedItems (depth + 1) items ++ '\n' :: indentation depth ++ [']']
  | depth, .map ((key, value) :: entries) =>
      ['{', '\n'] ++ indentation (depth + 1) ++ quoted key ++ [':', ' ']
        ++ expandedAt (depth + 1) value ++ expandedEntries (depth + 1) entries
        ++ '\n' :: indentation depth ++ ['}']
  | depth, .record name ((field, value) :: fields) =>
      name.toList ++ ['{', '\n'] ++ indentation (depth + 1) ++ field.toList ++ [':', ' ']
        ++ expandedAt (depth + 1) value ++ expandedFields (depth + 1) fields
        ++ '\n' :: indentation depth ++ ['}']
  | _, value => value.compact

def expandedItems : Nat → List Value → List Char
  | _, [] => []
  | depth, item :: items =>
      [',', '\n'] ++ indentation depth ++ expandedAt depth item ++ expandedItems depth items

def expandedEntries : Nat → List (String × Value) → List Char
  | _, [] => []
  | depth, (key, value) :: entries =>
      [',', '\n'] ++ indentation depth ++ quoted key ++ [':', ' '] ++ expandedAt depth value
        ++ expandedEntries depth entries

def expandedFields : Nat → List (String × Value) → List Char
  | _, [] => []
  | depth, (field, value) :: fields =>
      [',', '\n'] ++ indentation depth ++ field.toList ++ [':', ' '] ++ expandedAt depth value
        ++ expandedFields depth fields

end

def expanded (value : Value) : List Char := expandedAt 0 value

end HttpTest.Value
