import HttpTest.Toml.Scalar
import HttpTest.Toml.Quotation
import HttpTest.Toml.Draft

/-!
# Reading TOML

A document is a sequence of lines, each with a pair of a key and a value or with the header of a
table. It is read line by line, and then the lines are put together into one table. Values nest up
to 79 deep, and keys have up to 79 parts.
-/

namespace HttpTest.Toml

def located {α : Type} (data : α) (text rest : List Char) : Located α :=
  ⟨data, some ⟨text.length, rest.length⟩⟩

/-- What follows the end of a line: spaces, a comment and the line break, all optional at the end of
the document. -/
def afterLine? (text : List Char) : Option (List Char) :=
  let text := match skipSpaces text with
    | '#' :: rest => rest.dropWhile isTextChar
    | rest => rest
  if text.isEmpty then some [] else afterBreak? text

/-- The text without the blanks, line breaks and comments it starts with, unless a comment does not
end with its line. -/
def skipLines : (fuel : Nat) → List Char → Option (List Char)
  | 0, _ => none
  | fuel + 1, text =>
    match skipSpaces text with
    | [] => some []
    | c :: rest =>
      if c = '#' then
        match rest.dropWhile isTextChar with
        | [] => some []
        | rest => (afterBreak? rest).bind (skipLines fuel)
      else match afterBreak? (c :: rest) with
        | some rest => skipLines fuel rest
        | none => if c = '\r' then none else some (c :: rest)

/-! ### Keys -/

def readPart? (text : List Char) : Option (Located String × List Char) :=
  match text with
  | [] => none
  | c :: _ =>
    if (Quotation.ofMark? c).isSome then
      (Quotation.readLine? text).map fun (part, rest) => (located part text rest, rest)
    else
      let part := text.takeWhile isBareChar
      let rest := text.dropWhile isBareChar
      if part.isEmpty then none else some (located (String.ofList part) text rest, rest)

structure Key where
  path : List (Located String)
  last : Located String

def maxParts : Nat := 79

/-- The parts of a key between which points stand, and the rest; `path` holds those that were read,
the last one first. -/
def readParts (path : List (Located String)) : (fuel : Nat) → List Char → Option (Key × List Char)
  | 0, _ => none
  | fuel + 1, text =>
    (readPart? (skipSpaces text)).bind fun (part, rest) =>
      match skipSpaces rest with
      | '.' :: rest => readParts (part :: path) fuel rest
      | rest => some (⟨path.reverse, part⟩, rest)

def readKey? (text : List Char) : Option (Key × List Char) :=
  readParts [] maxParts text

/-! ### Values -/

/-- The items of an array after its bracket, read by `item`; `read` holds those so far, the last one
first. -/
def readItems (item : List Char → Option (Located Toml × List Char)) (read : List (Located Toml)) :
    (fuel : Nat) → List Char → Option (Toml × List Char)
  | 0, _ => none
  | fuel + 1, text =>
    match skipLines (text.length + 1) text with
    | some (']' :: rest) => some (.array .bracketed read.reverse, rest)
    | some text =>
      (item text).bind fun (value, rest) =>
        match skipLines (rest.length + 1) rest with
        | some (']' :: rest) => some (.array .bracketed (value :: read).reverse, rest)
        | some (',' :: rest) => readItems item (value :: read) fuel rest
        | _ => none
    | none => none

def readPairs (item : List Char → Option (Located Toml × List Char)) (table : OpenTable Draft) :
    (fuel : Nat) → List Char → Option (Toml × List Char)
  | 0, _ => none
  | fuel + 1, text =>
    match readKey? text with
    | some (key, '=' :: rest) =>
      match item (skipSpaces rest) with
      | some (value, rest) =>
        match Draft.addPair key.path key.last value table with
        | none => none
        | some table =>
          match skipSpaces rest with
          | '}' :: rest => some (table.close.data, rest)
          | ',' :: rest => readPairs item table fuel rest
          | _ => none
      | none => none
    | _ => none

/-- A value with `depth` levels of nesting left, and the rest. -/
def readValue (depth : Nat) (text : List Char) : Option (Located Toml × List Char) :=
  let value : Option (Toml × List Char) :=
    match text with
    | [] => none
    | c :: rest =>
      if (Quotation.ofMark? c).isSome then
        (Quotation.read? text).map fun (s, rest) => (.string s, rest)
      else if c = '[' then
        match depth with
        | 0 => none
        | depth + 1 => readItems (readValue depth) [] (rest.length + 1) rest
      else if c = '{' then
        match depth with
        | 0 => none
        | depth + 1 =>
          match skipSpaces rest with
          | '}' :: rest => some (.table [], rest)
          | _ => readPairs (readValue depth) (.empty .declared none) (rest.length + 1) rest
      else readScalar? text
  value.map fun (value, rest) => (located value text rest, rest)

def maxDepth : Nat := 79

/-! ### Lines -/

inductive Line where
  | pair (key : Key) (value : Located Toml)
  /-- The header of a table. -/
  | table (key : Key) (span : Span)
  /-- The header of a table that is appended to an array. -/
  | element (key : Key) (span : Span)

def readLine? (text : List Char) : Option (Line × List Char) :=
  match text with
  | '[' :: '[' :: rest =>
    match readKey? rest with
    | some (key, ']' :: ']' :: rest) =>
      (afterLine? rest).map (.element key ⟨text.length, rest.length⟩, ·)
    | _ => none
  | '[' :: rest =>
    match readKey? rest with
    | some (key, ']' :: rest) => (afterLine? rest).map (.table key ⟨text.length, rest.length⟩, ·)
    | _ => none
  | text =>
    match readKey? text with
    | some (key, '=' :: rest) =>
      (readValue maxDepth (skipSpaces rest)).bind fun (value, rest) =>
        (afterLine? rest).map (.pair key value, ·)
    | _ => none

def readLines (read : List Line) : (fuel : Nat) → List Char → Option (List Line)
  | 0, _ => none
  | fuel + 1, text =>
    match skipLines (text.length + 1) text with
    | none => none
    | some [] => some read.reverse
    | some text => (readLine? text).bind fun (line, rest) => readLines (line :: read) fuel rest

/-! ### Documents -/

/-- What the lines that follow add to. -/
inductive Place where
  | top
  | table (key : Key)
  | element (key : Key)

/-- A document under construction: the tables that are complete, and the one that lines add to. -/
structure Assembly where
  root : OpenTable Draft
  place : Place
  current : OpenTable Draft

namespace Assembly

def flush (assembly : Assembly) : Option (OpenTable Draft) :=
  match assembly.place with
  | .top => some assembly.current
  | .table key => Draft.addTable key.path key.last assembly.current assembly.root
  | .element key => Draft.addElement key.path key.last assembly.current assembly.root

def extend (span value : Option Span) : Option Span :=
  match span, value with
  | some span, some value => some ⟨span.start, value.stop⟩
  | span, _ => span

def add (assembly : Assembly) : Line → Option Assembly
  | .pair key value =>
    let current :=
      { assembly.current with span := extend assembly.current.span value.span }
    (Draft.addPair key.path key.last value current).map fun current =>
      { assembly with current := current }
  | .table key span =>
    assembly.flush.bind fun root =>
      (Draft.implied? key.path key.last root).map fun entries =>
        ⟨root, .table key, ⟨.declared, some span, entries⟩⟩
  | .element key span =>
    assembly.flush.bind fun root => some ⟨root, .element key, .empty .declared (some span)⟩

end Assembly

def assemble (text : List Char) (lines : List Line) : Option (Located Toml) :=
  let start : Assembly :=
    ⟨.empty .declared none, .top, .empty .declared (some ⟨text.length, text.length⟩)⟩
  ((lines.foldlM Assembly.add start).bind Assembly.flush).map OpenTable.close

def afterMark : List Char → List Char
  | '\uFEFF' :: rest => rest
  | text => text

def read? (text : List Char) : Option (Located Toml) :=
  let lines := afterMark text
  (readLines [] (lines.length + 1) lines).bind (assemble text)

end HttpTest.Toml
