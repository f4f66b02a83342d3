import HttpTest.Toml.Basic
import HttpTest.Text.Quoted

/-!
# Documents of a given shape

A decoder takes a TOML value for data of some type, or says what about its shape is wrong and where.
Tables are decoded entry by entry in their order, so that the first wrong entry is reported; only
then are fields missed.
-/

namespace HttpTest.Toml

inductive Found where
  | string (s : String)
  | integer (i : Int64)
  | float (x : Number.Binary64)
  | boolean (b : Bool)
  | sequence
  | map

/-- The text of a number in a report: never an exponent, always a fraction. -/
def numberLayout : Number.FloatLayout := ⟨none, none, true, false, .up⟩

def Found.text : Found → String
  | .string s => "string " ++ String.ofList (Text.quoted s)
  | .integer i => "integer `" ++ String.ofList (Number.intText i.toInt) ++ "`"
  | .float x => "floating point `" ++ String.ofList (x.text numberLayout) ++ "`"
  | .boolean b => "boolean `" ++ (if b then "true" else "false") ++ "`"
  | .sequence => "sequence"
  | .map => "map"

/-- What a value is found to be; a moment is a map. -/
def found : Toml → Found
  | .string s => .string s
  | .integer i => .integer i
  | .float x => .float x
  | .boolean b => .boolean b
  | .array _ _ => .sequence
  | .datetime _ | .table _ => .map

def typeName : Toml → String
  | .string _ => "string"
  | .integer _ => "integer"
  | .float _ => "float"
  | .boolean _ => "boolean"
  | .datetime _ => "datetime"
  | .array _ _ => "array"
  | .table _ => "table"

inductive Expected where
  | string
  | boolean
  /-- A number of 64 bits without sign. -/
  | word
  /-- A number of elements. -/
  | size
  | sequence
  | map
  | record (name : String)
  | moment

def Expected.text : Expected → String
  | .string => "a string"
  | .boolean => "a boolean"
  | .word => "u64"
  | .size => "usize"
  | .sequence => "a sequence"
  | .map => "a map"
  | .record name => "struct " ++ name
  | .moment => "string containing a datetime"

inductive ShapeFault where
  | wrongType (found : Found) (expected : Expected)
  | wrongValue (found : Found) (expected : Expected)
  /-- A record is written as an array that is too short. -/
  | wrongLength (length : Nat) (name : String) (fields : Nat)
  | missingField (name : String)
  | unknownField (name : String) (known : List String)
  | unknownChoice (name : String) (known : List String)
  | noChoice
  | severalChoices
  /-- A choice holds entries or items. -/
  | notEmpty (typeName : String)
  /-- A choice holds something else. -/
  | notTable (typeName : String)
  /-- A choice is neither a string nor a table. -/
  | notChoice
  | notMoment

def alternatives : List String → String
  | [name] => "`" ++ name ++ "`"
  | [first, second] => "`" ++ first ++ "` or `" ++ second ++ "`"
  | names => "one of " ++ String.intercalate ", " (names.map fun name => "`" ++ name ++ "`")

def ShapeFault.message : ShapeFault → String
  | .wrongType found expected => "invalid type: " ++ found.text ++ ", expected " ++ expected.text
  | .wrongValue found expected => "invalid value: " ++ found.text ++ ", expected " ++ expected.text
  | .wrongLength length name fields =>
      "invalid length " ++ toString length ++ ", expected struct " ++ name ++ " with "
        ++ toString fields ++ (if fields = 1 then " element" else " elements")
  | .missingField name => "missing field `" ++ name ++ "`"
  | .unknownField name known => "unknown field `" ++ name ++ "`, expected " ++ alternatives known
  | .unknownChoice name known =>
      "unknown variant `" ++ name ++ "`, expected " ++ alternatives known
  | .noChoice => "wanted exactly 1 element, found 0 elements"
  | .severalChoices => "wanted exactly 1 element, more than 1 element"
  | .notEmpty typeName => "expected empty " ++ typeName
  | .notTable typeName => "expected table, found " ++ typeName
  | .notChoice => "wanted string or table"
  | .notMoment => "failed to parse datetime"

structure ShapeError where
  fault : ShapeFault
  span : Option Span

/-- The error, placed in a stretch of the text if it has no place yet. -/
def ShapeError.within (span : Option Span) (error : ShapeError) : ShapeError :=
  { error with span := error.span <|> span }

abbrev Decoder (α : Type) := Located Toml → Except ShapeError α

namespace Decoder

def fail {α : Type} (fault : ShapeFault) (value : Located Toml) : Except ShapeError α :=
  .error ⟨fault, value.span⟩

def mismatch {α : Type} (expected : Expected) (value : Located Toml) : Except ShapeError α :=
  fail (.wrongType value.data.found expected) value

def placed {α : Type} (span : Option Span) (result : Except ShapeError α) : Except ShapeError α :=
  result.mapError (·.within span)

def moment : Decoder Datetime := fun value =>
  match value.data with
  | .string s =>
    match Datetime.read? .quoted s.toList with
    | some d => .ok d
    | none => fail .notMoment value
  | _ => mismatch .moment value

mutual

/-- The value that a TOML value stands for, where faults that have no place are to be placed in
`span`. A moment is a map with its written form, and so is a table that starts with the key of such
a map, whatever its other entries are. A number that is not finite is `null`. -/
def valueIn (span : Option Span) : Toml → Except ShapeError Value
  | .string s => .ok (.string s)
  | .integer i => .ok (.int i)
  | .float x => .ok (if x.isFinite then .float x else .null)
  | .boolean b => .ok (.bool b)
  | .datetime d => .ok (momentValue d)
  | .array _ items => placed span ((valuesIn items).map .list)
  | .table entries =>
    match entries with
    | [] => .ok (.map [])
    | (key, content) :: rest =>
      if key.data = datetimeKey then
        placed (content.span <|> key.span <|> span) ((moment content).map momentValue)
      else placed span ((entriesIn ((key, content) :: rest)).map .ofEntries)

def valuesIn : List (Located Toml) → Except ShapeError (List Value)
  | [] => .ok []
  | ⟨item, span⟩ :: items =>
    match valueIn span item with
    | .error e => .error e
    | .ok value => (valuesIn items).map (value :: ·)

def entriesIn : List (Located String × Located Toml) → Except ShapeError (List (String × Value))
  | [] => .ok []
  | (⟨key, keySpan⟩, ⟨content, span⟩) :: entries =>
    match valueIn (span <|> keySpan) content with
    | .error e => .error e
    | .ok value => (entriesIn entries).map ((key, value) :: ·)

end

def value : Decoder Value := fun value => valueIn value.span value.data

def string : Decoder String := fun value =>
  match value.data with
  | .string s => .ok s
  | _ => mismatch .string value

def boolean : Decoder Bool := fun value =>
  match value.data with
  | .boolean b => .ok b
  | _ => mismatch .boolean value

/-- A number that is not negative; the other ones are named as not being what is expected. -/
def natural (expected : Expected) : Decoder UInt64 := fun value =>
  match value.data with
  | .integer i =>
    if i < 0 then fail (.wrongValue value.data.found expected) value else .ok i.toUInt64
  | _ => mismatch expected value

def list {α : Type} (item : Decoder α) : Decoder (List α) := fun value =>
  match value.data with
  | .array _ items => items.mapM item
  | _ => mismatch .sequence value

/-- The entries of a value that is a table. A moment is one with a single entry. -/
def entries? (value : Located Toml) : Option (List (Located String × Located Toml)) :=
  match value.data with
  | .table entries => some entries
  | .datetime d => some [(⟨datetimeKey, none⟩, ⟨.string (String.ofList d.text), none⟩)]
  | _ => none

/-- A table whose values have one shape, as a dictionary. -/
def dictionary {α : Type} (item : Decoder α) : Decoder (List (String × α)) := fun value =>
  match entries? value with
  | none => mismatch .map value
  | some entries =>
    placed value.span
      (do
        let decoded ← entries.mapM fun (key, entry) => do
          pure (key.data, ← placed (entry.span <|> key.span) (item entry))
        pure (Dictionary.ofList decoded))

def map : Decoder Value := fun value =>
  match value.data with
  | .table entries => placed value.span ((entriesIn entries).map .ofEntries)
  | _ => mismatch .map value

/-- One of a few names: a string, or a table whose only key it is and which holds nothing. -/
def choice {α : Type} (names : List (String × α)) : Decoder α := fun value =>
  let named (name : String) (span : Option Span) : Except ShapeError α :=
    match names.lookup name with
    | some chosen => .ok chosen
    | none => .error ⟨.unknownChoice name (names.map Prod.fst), span⟩
  placed value.span <|
    match value.data with
    | .string name => named name value.span
    | .table [] => fail .noChoice value
    | .table [(key, content)] =>
      match named key.data key.span, content.data with
      | .error e, _ => .error e
      | .ok chosen, .table [] | .ok chosen, .array _ [] => .ok chosen
      | .ok _, .array .headed _ => fail (.notEmpty "array") content
      | .ok _, .table _ | .ok _, .array .bracketed _ => fail (.notEmpty "table") content
      | .ok _, other => fail (.notTable other.typeName) content
    | .table _ => fail .severalChoices value
    | _ => fail .notChoice value

end Decoder

/-! ### Records -/

inductive Need where
  | always
  /-- It may be left out of a table, but not of an array. -/
  | inArray
  | never
  deriving DecidableEq

/-- A field of a record of type `σ`: its name and how its value changes the record. -/
structure Field (σ : Type) where
  name : String
  need : Need
  decode : Decoder (σ → σ)

def Field.of {σ α : Type} (name : String) (need : Need) (decoder : Decoder α) (store : α → σ → σ) :
    Field σ :=
  ⟨name, need, fun value => (decoder value).map store⟩

structure Schema (σ : Type) where
  name : String
  fields : List (Field σ)
  /-- Whether fields of other names are wrong. -/
  strict : Bool

namespace Schema

variable {σ : Type}

def addEntries (schema : Schema σ) (record : σ) :
    List (Located String × Located Toml) → Except ShapeError σ
  | [] => .ok record
  | (key, value) :: entries =>
    match schema.fields.find? (·.name = key.data) with
    | some field =>
      match Decoder.placed (value.span <|> key.span) (field.decode value) with
      | .ok change => addEntries schema (change record) entries
      | .error e => .error e
    | none =>
      if schema.strict then
        .error ⟨.unknownField key.data (schema.fields.map (·.name)), key.span⟩
      else addEntries schema record entries

def missing? (schema : Schema σ) (entries : List (Located String × Located Toml)) :
    Option (Field σ) :=
  schema.fields.find? fun field =>
    field.need = .always && !entries.any fun entry => entry.1.data = field.name

/-- The record after the items of an array, which stand for the fields in their order. Further items
do not count. -/
def addItems (schema : Schema σ) (length : Nat) (record : σ) :
    List (Field σ) → List (Located Toml) → Except ShapeError σ
  | [], _ => .ok record
  | field :: fields, item :: items =>
    match field.decode item with
    | .ok change => addItems schema length (change record) fields items
    | .error e => .error e
  | field :: fields, [] =>
    if field.need = .never then addItems schema length record fields []
    else .error ⟨.wrongLength length schema.name schema.fields.length, none⟩

/-- Decodes a record, starting from one with every field left out. -/
def decode (schema : Schema σ) (initial : σ) : Decoder σ := fun value =>
  Decoder.placed value.span <|
    match Decoder.entries? value, value.data with
    | some entries, _ =>
      match schema.addEntries initial entries with
      | .error e => .error e
      | .ok record =>
        match schema.missing? entries with
        | some field => .error ⟨.missingField field.name, none⟩
        | none => .ok record
    | none, .array _ items => schema.addItems items.length initial schema.fields items
    | none, other => .error ⟨.wrongType other.found (.record schema.name), none⟩

end Schema

end HttpTest.Toml
