import HttpTest.Value.Text

/-!
# Coercion

What comes over the wire is text and JSON, what an expectation is written with has shapes of its
own. Coercion brings a value into the shape of a template, or says which value it could not bring
into which shape.
-/

namespace HttpTest

open Number (Binary64)

structure CoercionError where
  value : Value
  target : Kind
  deriving DecidableEq

namespace CoercionError

def source (e : CoercionError) : Kind := e.value.kind

def message (e : CoercionError) : String :=
  "could not convert " ++ e.value.text ++ " (" ++ e.source.name ++ ") to " ++ e.target.name

end CoercionError

namespace Value

/-- The integer that a text names: an integer numeral, or any other numeral of an integral number.
-/
def readInt64? (text : List Char) : Option Int64 :=
  match Number.readInt64? text with
  | some i => some i
  | none => (Number.readFloat? text).bind Binary64.toInt64?

def readBool? (text : List Char) : Option Bool :=
  let word := String.ofList (text.map Char.toLower)
  if word = "true" ∨ word = "1" then some true
  else if word = "false" ∨ word = "0" then some false
  else none

/-- The value in another shape, where there is a way between two scalar shapes. -/
def scalarAs? : Value → Kind → Option Value
  | .int i, .float => some (.float (Binary64.ofInt i.toInt))
  | .float x, .int => x.toInt64?.map .int
  | .bool b, .int => some (.int (if b then 1 else 0))
  | .bool b, .float => some (.float (if b then .one else .zero false))
  | .int i, .bool => some (.bool (i != 0))
  | .float x, .bool => some (.bool (!x.isZero))
  | .string s, .int => (readInt64? (Text.trim s.toList)).map .int
  | .string s, .float => (Number.readFloat? (Text.trim s.toList)).map .float
  | .string s, .bool => (readBool? (Text.trim s.toList)).map .bool
  | .int i, .string => some (.string (String.ofList (Number.intText i.toInt)))
  | .float x, .string => some (.string (String.ofList (x.text .plain)))
  | .bool b, .string => some (.string (if b then "true" else "false"))
  | _, _ => none

/-- The value in the given shape. A composite value has only its own. -/
def coerceTo (value : Value) (target : Kind) : Except CoercionError Value :=
  if value.kind = target then .ok value
  else match value.scalarAs? target with
    | some converted => .ok converted
    | none => .error ⟨value, target⟩

mutual

/-- The value in the shape of a template. Entries are coerced to the entries of the template at the
same place and kept as they are where the template has none. -/
def coerce : (value template : Value) → Except CoercionError Value
  | .list items, .list templates =>
      match coerceItems items templates with
      | .ok items => .ok (.list items)
      | .error e => .error e
  | .map entries, .map templates =>
      match coerceEntries entries templates with
      | .ok entries => .ok (.map entries)
      | .error e => .error e
  | .record _ fields, .map templates =>
      match coerceEntries fields templates with
      | .ok fields => .ok (.ofEntries fields)
      | .error e => .error e
  | .map entries, .record name templates =>
      match coerceEntries entries templates with
      | .ok entries => .ok (.record name entries)
      | .error e => .error e
  | .record name fields, .record _ templates =>
      match coerceEntries fields templates with
      | .ok fields => .ok (.record name fields)
      | .error e => .error e
  | value, template => value.coerceTo template.kind

def coerceItems : (items templates : List Value) → Except CoercionError (List Value)
  | [], _ => .ok []
  | items, [] => .ok items
  | item :: items, template :: templates =>
      match coerce item template with
      | .error e => .error e
      | .ok item =>
        match coerceItems items templates with
        | .error e => .error e
        | .ok items => .ok (item :: items)

/-- Entries in the shape of the first templates of the same name. -/
def coerceEntries : (entries templates : List (String × Value)) →
    Except CoercionError (List (String × Value))
  | [], _ => .ok []
  | (key, value) :: entries, templates =>
      let converted := match Dictionary.find? key templates with
        | some template => coerce value template
        | none => .ok value
      match converted with
      | .error e => .error e
      | .ok value =>
        match coerceEntries entries templates with
        | .error e => .error e
        | .ok entries => .ok ((key, value) :: entries)

end

end Value

end HttpTest
