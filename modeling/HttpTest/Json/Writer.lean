import HttpTest.Json.Basic
import HttpTest.Number.Text
import HttpTest.Text.Basic

/-!
# Writing JSON

The compact text of a document: no blanks, members in the order of the object, shortest digits for
doubles, and in strings only quotes, backslashes and control characters escaped.
-/

namespace HttpTest.Json

def escapedChar (c : Char) : List Char :=
  if c = '"' then ['\\', '"']
  else if c = '\\' then ['\\', '\\']
  else if c.toNat = 8 then ['\\', 'b']
  else if c = '\t' then ['\\', 't']
  else if c = '\n' then ['\\', 'n']
  else if c.toNat = 12 then ['\\', 'f']
  else if c = '\r' then ['\\', 'r']
  else if c.toNat < 0x10 then ['\\', 'u', '0', '0', '0'] ++ Text.hexText c.toNat
  else if c.toNat < 0x20 then ['\\', 'u', '0', '0'] ++ Text.hexText c.toNat
  else [c]

def stringText (s : String) : List Char := '"' :: s.toList.flatMap escapedChar ++ ['"']

mutual

/-- The compact text of a document. A number that is not finite has no text in JSON and is written
as `null`. -/
def text : Json → List Char
  | .null => ['n', 'u', 'l', 'l']
  | .bool b => if b then ['t', 'r', 'u', 'e'] else ['f', 'a', 'l', 's', 'e']
  | .integer i => Number.intText i
  | .float x => if x.isFinite then x.text .json else ['n', 'u', 'l', 'l']
  | .string s => stringText s
  | .array [] => ['[', ']']
  | .array (item :: items) => '[' :: text item ++ itemsText items ++ [']']
  | .object [] => ['{', '}']
  | .object ((key, member) :: members) =>
      '{' :: stringText key ++ ':' :: text member ++ membersText members ++ ['}']

/-- The items after the first one, each with the comma before it. -/
def itemsText : List Json → List Char
  | [] => []
  | item :: items => ',' :: text item ++ itemsText items

def membersText : List (String × Json) → List Char
  | [] => []
  | (key, member) :: members => ',' :: stringText key ++ ':' :: text member ++ membersText members

end

def write (document : Json) : String := String.ofList document.text

end HttpTest.Json
