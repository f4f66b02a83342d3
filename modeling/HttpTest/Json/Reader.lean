import HttpTest.Json.Basic
import HttpTest.Number.Text
import HttpTest.Text.Utf8

/-!
# Reading JSON

A document is read from bytes, and what is wrong with it is reported with the line and the column,
in bytes, at which reading stopped. Arrays and objects nest up to 127 deep.

A number with a fraction or an exponent is scaled in double precision: its digits, as far as they
fit 64 bits, become a double which is multiplied or divided by a power of ten. An integer that fits
neither a signed nor an unsigned 64-bit word is read in the same way.
-/

namespace HttpTest.Json

inductive ReadCause where
  | endInList
  | endInObject
  | endInString
  | endInValue
  | expectedColon
  | expectedListCommaOrEnd
  | expectedObjectCommaOrEnd
  | expectedIdentifier
  | expectedValue
  | invalidEscape
  | invalidNumber
  | numberOutOfRange
  | invalidCodePoint
  | controlCharacter
  | keyNotString
  | loneSurrogate
  | trailingComma
  | trailingCharacters
  | unexpectedEndOfEscape
  | nestedTooDeep
  deriving DecidableEq

def ReadCause.message : ReadCause → String
  | .endInList => "EOF while parsing a list"
  | .endInObject => "EOF while parsing an object"
  | .endInString => "EOF while parsing a string"
  | .endInValue => "EOF while parsing a value"
  | .expectedColon => "expected `:`"
  | .expectedListCommaOrEnd => "expected `,` or `]`"
  | .expectedObjectCommaOrEnd => "expected `,` or `\x7d`"
  | .expectedIdentifier => "expected ident"
  | .expectedValue => "expected value"
  | .invalidEscape => "invalid escape"
  | .invalidNumber => "invalid number"
  | .numberOutOfRange => "number out of range"
  | .invalidCodePoint => "invalid unicode code point"
  | .controlCharacter =>
      "control character (\\u0000-\\u001F) found while parsing a string"
  | .keyNotString => "key must be a string"
  | .loneSurrogate => "lone leading surrogate in hex escape"
  | .trailingComma => "trailing comma"
  | .trailingCharacters => "trailing characters"
  | .unexpectedEndOfEscape => "unexpected end of hex escape"
  | .nestedTooDeep => "recursion limit exceeded"

structure ReadError where
  cause : ReadCause
  line : Nat
  column : Nat
  deriving DecidableEq

def ReadError.message (e : ReadError) : String :=
  e.cause.message ++ " at line " ++ toString e.line ++ " column " ++ toString e.column

/-- A cause and the number of bytes that are left from its place on. -/
structure Stop where
  cause : ReadCause
  left : Nat

abbrev Reading (α : Type) := Except Stop (α × List UInt8)

def stop {α : Type} (cause : ReadCause) (rest : List UInt8) : Reading α :=
  .error ⟨cause, rest.length⟩

def isBlank (b : UInt8) : Bool := b == 0x20 || b == 0x09 || b == 0x0A || b == 0x0D

def skipBlanks (bytes : List UInt8) : List UInt8 := bytes.dropWhile isBlank

def digit? (b : UInt8) : Option Nat :=
  if 0x30 ≤ b ∧ b ≤ 0x39 then some (b.toNat - 0x30) else none

def isDigit (b : UInt8) : Bool := (digit? b).isSome

/-- The rest of the name `null`, `true` or `false`. -/
def readName (document : Json) : (name : List UInt8) → List UInt8 → Reading Json
  | [], bytes => .ok (document, bytes)
  | _ :: _, [] => stop .endInValue []
  | c :: name, b :: bytes =>
    if b = c then readName document name bytes else stop .expectedIdentifier bytes

/-! ### Numbers -/

def powerOfTen (n : Nat) : Number.Binary64 := .ofRatio false (10 ^ n) 1

/-- Division by a power of ten beyond the range of doubles, in steps of `10 ^ 308`. No double is
different from zero after three of them. -/
def scaleDown (x : Number.Binary64) (places : Nat) : (fuel : Nat) → Number.Binary64
  | 0 => x
  | fuel + 1 =>
    if places ≤ 308 then x.div (powerOfTen places)
    else if x.isZero then x
    else scaleDown (x.div (powerOfTen 308)) (places - 308) fuel

def scaled (negative : Bool) (significand : Nat) (exponent : Int) (rest : List UInt8) :
    Reading Json :=
  let x := Number.Binary64.ofInt significand
  let sign (x : Number.Binary64) : Json := .float (if negative then x.neg else x)
  if exponent < 0 then .ok (sign (scaleDown x exponent.natAbs 4), rest)
  else if 308 < exponent then
    if significand = 0 then .ok (sign x, rest) else stop .numberOutOfRange rest
  else
    let product := x.mul (powerOfTen exponent.toNat)
    if product.isFinite then .ok (sign product, rest) else stop .numberOutOfRange rest

def maxWord : Nat := 2 ^ 64 - 1

/-- The greatest exponent that is told apart from greater ones. -/
def maxExponent : Nat := 2 ^ 31 - 1

/-- The digits of an exponent. One that is too great makes a number that is zero or out of range. -/
def readExponentDigits (negative : Bool) (significand : Nat) (place : Int) (below : Bool)
    (exponent : Nat) : List UInt8 → Reading Json
  | [] => finish []
  | b :: bytes =>
    match digit? b with
    | none => finish (b :: bytes)
    | some d =>
      if maxExponent < exponent * 10 + d then
        if significand ≠ 0 ∧ !below then stop .numberOutOfRange bytes
        else .ok (.float (.zero negative), bytes.dropWhile isDigit)
      else readExponentDigits negative significand place below (exponent * 10 + d) bytes
where
  finish (rest : List UInt8) : Reading Json :=
    scaled negative significand (if below then place - exponent else place + exponent) rest

def readExponent (negative : Bool) (significand : Nat) (place : Int) (bytes : List UInt8) :
    Reading Json :=
  let (below, bytes) := match bytes with
    | 0x2D :: rest => (true, rest)
    | 0x2B :: rest => (false, rest)
    | bytes => (false, bytes)
  match bytes with
  | [] => stop .endInValue []
  | b :: rest =>
    match digit? b with
    | none => stop .invalidNumber rest
    | some d => readExponentDigits negative significand place below d rest

def readOptionalExponent (negative : Bool) (significand : Nat) (place : Int)
    (bytes : List UInt8) : Reading Json :=
  match bytes with
  | b :: rest =>
    if b = 0x65 ∨ b = 0x45 then readExponent negative significand place rest
    else scaled negative significand place bytes
  | [] => scaled negative significand place []

/-- The digits after the point. From the first one on that no longer fits 64 bits they are ignored.
-/
def readFraction (negative : Bool) (significand : Nat) (place : Int) (any : Bool) :
    List UInt8 → Reading Json
  | [] => if any then scaled negative significand place [] else stop .endInValue []
  | b :: bytes =>
    match digit? b with
    | none =>
      if any then readOptionalExponent negative significand place (b :: bytes)
      else stop .invalidNumber bytes
    | some d =>
      if maxWord < significand * 10 + d then
        readOptionalExponent negative significand place (bytes.dropWhile isDigit)
      else readFraction negative (significand * 10 + d) (place - 1) true bytes

/-- The digits of an integer that does not fit 64 bits: each shifts the number by one place. -/
def readLongInteger (negative : Bool) (significand : Nat) (place : Nat) :
    List UInt8 → Reading Json
  | [] => scaled negative significand place []
  | b :: bytes =>
    if isDigit b then readLongInteger negative significand (place + 1) bytes
    else if b = 0x2E then readFraction negative significand place false bytes
    else readOptionalExponent negative significand place (b :: bytes)

/-- An integer in the range of a signed or an unsigned 64-bit word; others, and minus zero, are
doubles. -/
def wordOrFloat (negative : Bool) (n : Nat) : Json :=
  if !negative then .integer n
  else if 0 < n ∧ n ≤ 2 ^ 63 then .integer (-(n : Int))
  else .float (Number.Binary64.ofInt n).neg

def readNumberEnd (negative : Bool) (significand : Nat) (bytes : List UInt8) : Reading Json :=
  match bytes with
  | b :: rest =>
    if b = 0x2E then readFraction negative significand 0 false rest
    else if b = 0x65 ∨ b = 0x45 then readExponent negative significand 0 rest
    else .ok (wordOrFloat negative significand, bytes)
  | [] => .ok (wordOrFloat negative significand, [])

def readDigits (negative : Bool) (significand : Nat) : List UInt8 → Reading Json
  | [] => readNumberEnd negative significand []
  | b :: bytes =>
    match digit? b with
    | none => readNumberEnd negative significand (b :: bytes)
    | some d =>
      if maxWord < significand * 10 + d then
        readLongInteger negative significand 0 (b :: bytes)
      else readDigits negative (significand * 10 + d) bytes

/-- A number after its sign. A leading zero stands alone. -/
def readNumber (negative : Bool) : List UInt8 → Reading Json
  | [] => stop .endInValue []
  | b :: bytes =>
    match digit? b with
    | none => stop .invalidNumber bytes
    | some 0 =>
      match bytes with
      | c :: rest => if isDigit c then stop .invalidNumber rest else readNumberEnd negative 0 bytes
      | [] => readNumberEnd negative 0 []
    | some d => readDigits negative d bytes

/-! ### Strings -/

def hexDigit? (b : UInt8) : Option Nat :=
  if 0x30 ≤ b ∧ b ≤ 0x39 then some (b.toNat - 0x30)
  else if 0x61 ≤ b ∧ b ≤ 0x66 then some (b.toNat - 0x61 + 10)
  else if 0x41 ≤ b ∧ b ≤ 0x46 then some (b.toNat - 0x41 + 10)
  else none

def hexWord? (a b c d : UInt8) : Option Nat :=
  match hexDigit? a, hexDigit? b, hexDigit? c, hexDigit? d with
  | some a, some b, some c, some d => some (((a * 16 + b) * 16 + c) * 16 + d)
  | _, _, _, _ => none

def readHexWord : List UInt8 → Reading Nat
  | a :: b :: c :: d :: rest =>
    match hexWord? a b c d with
    | some n => .ok (n, rest)
    | none => stop .invalidEscape rest
  | _ => stop .endInString []

/-- The second half of a surrogate pair, with the escape that introduces it. -/
def readLowSurrogate : List UInt8 → Reading Nat
  | [] => stop .endInString []
  | 0x5C :: 0x75 :: rest =>
    match readHexWord rest with
    | .error e => .error e
    | .ok (n, rest) =>
      if 0xDC00 ≤ n ∧ n ≤ 0xDFFF then .ok (n, rest) else stop .loneSurrogate rest
  | 0x5C :: [] => stop .endInString []
  | 0x5C :: _ :: rest => stop .unexpectedEndOfEscape rest
  | _ :: rest => stop .unexpectedEndOfEscape rest

/-- The code point after a backslash and `u`: one word, or two that form a surrogate pair. -/
def readCodePoint (bytes : List UInt8) : Reading Nat :=
  match readHexWord bytes with
  | .error e => .error e
  | .ok (n, rest) =>
    if 0xDC00 ≤ n ∧ n ≤ 0xDFFF then stop .loneSurrogate rest
    else if 0xD800 ≤ n ∧ n ≤ 0xDBFF then
      match readLowSurrogate rest with
      | .error e => .error e
      | .ok (low, rest) => .ok ((n - 0xD800) * 0x400 + (low - 0xDC00) + 0x10000, rest)
    else .ok (n, rest)

def escapedByte? (b : UInt8) : Option UInt8 :=
  if b = 0x22 ∨ b = 0x5C ∨ b = 0x2F then some b
  else if b = 0x62 then some 0x08
  else if b = 0x66 then some 0x0C
  else if b = 0x6E then some 0x0A
  else if b = 0x72 then some 0x0D
  else if b = 0x74 then some 0x09
  else none

def codePointBytes (n : Nat) : List UInt8 := (String.singleton (Char.ofNat n)).toUTF8.toList

/-- A string after its opening quote; `read` holds the bytes it stands for so far, the last one
first. A string that is not UTF-8 is found out at its closing quote, and its place is as far before
the end of that quote as there are bytes from the first invalid one on. -/
def readString (read : List UInt8) : (fuel : Nat) → List UInt8 → Reading String
  | 0, _ => stop .endInString []
  | _, [] => stop .endInString []
  | fuel + 1, b :: bytes =>
    if b = 0x22 then
      match String.fromUTF8? ⟨read.reverse.toArray⟩ with
      | some s => .ok (s, bytes)
      | none =>
        .error ⟨.invalidCodePoint, bytes.length + (Text.invalidFrom none read.reverse).length⟩
    else if b = 0x5C then
      match bytes with
      | [] => stop .endInString []
      | e :: rest =>
        if e = 0x75 then
          match readCodePoint rest with
          | .error stopped => .error stopped
          | .ok (n, rest) =>
            readString ((codePointBytes n).reverse ++ read) fuel rest
        else match escapedByte? e with
          | some c => readString (c :: read) fuel rest
          | none => stop .invalidEscape rest
    else if b < 0x20 then stop .controlCharacter bytes
    else readString (b :: read) fuel bytes

/-! ### Documents -/

/-- The items of an array after its bracket, read by `item`; `first` says that none was read yet and
`read` holds them, the last one first. -/
def readItems (item : List UInt8 → Reading Json) (first : Bool) (read : List Json) :
    (fuel : Nat) → List UInt8 → Reading Json
  | 0, _ => stop .endInList []
  | fuel + 1, bytes =>
    match skipBlanks bytes with
    | [] => stop .endInList []
    | b :: rest =>
      if b = 0x5D then .ok (.array read.reverse, rest)
      else
        let next (bytes : List UInt8) : Reading Json :=
          match item bytes with
          | .error e => .error e
          | .ok (document, bytes) => readItems item false (document :: read) fuel bytes
        if first then next (b :: rest)
        else if b = 0x2C then
          match skipBlanks rest with
          | [] => stop .endInValue []
          | c :: after => if c = 0x5D then stop .trailingComma after else next (c :: after)
        else stop .expectedListCommaOrEnd rest

def readMembers (item : List UInt8 → Reading Json) (first : Bool)
    (read : List (String × Json)) : (fuel : Nat) → List UInt8 → Reading Json
  | 0, _ => stop .endInObject []
  | fuel + 1, bytes =>
    match skipBlanks bytes with
    | [] => stop .endInObject []
    | b :: rest =>
      if b = 0x7D then .ok (.object read, rest)
      else
        let next (bytes : List UInt8) : Reading Json :=
          match readString [] (bytes.length + 1) bytes with
          | .error e => .error e
          | .ok (key, bytes) =>
            match skipBlanks bytes with
            | [] => stop .endInObject []
            | c :: bytes =>
              if c = 0x3A then
                match item bytes with
                | .error e => .error e
                | .ok (document, bytes) =>
                  readMembers item false (Dictionary.insert key document read) fuel bytes
              else stop .expectedColon bytes
        if first then
          if b = 0x22 then next rest else stop .keyNotString rest
        else if b = 0x2C then
          match skipBlanks rest with
          | [] => stop .endInValue []
          | c :: after =>
            if c = 0x22 then next after
            else if c = 0x7D then stop .trailingComma after
            else stop .keyNotString after
        else stop .expectedObjectCommaOrEnd rest

/-- A document with `depth` levels of nesting left. -/
def readDocument (depth : Nat) (bytes : List UInt8) : Reading Json :=
  match skipBlanks bytes with
  | [] => stop .endInValue []
  | b :: rest =>
    if b = 0x6E then readName .null [0x75, 0x6C, 0x6C] rest
    else if b = 0x74 then readName (.bool true) [0x72, 0x75, 0x65] rest
    else if b = 0x66 then readName (.bool false) [0x61, 0x6C, 0x73, 0x65] rest
    else if b = 0x2D then readNumber true rest
    else if isDigit b then readNumber false (b :: rest)
    else if b = 0x22 then
      match readString [] (rest.length + 1) rest with
      | .error e => .error e
      | .ok (s, rest) => .ok (.string s, rest)
    else if b = 0x5B then
      match depth with
      | 0 => stop .nestedTooDeep rest
      | depth + 1 => readItems (readDocument depth) true [] (rest.length + 1) rest
    else if b = 0x7B then
      match depth with
      | 0 => stop .nestedTooDeep rest
      | depth + 1 => readMembers (readDocument depth) true [] (rest.length + 1) rest
    else stop .expectedValue rest

def maxDepth : Nat := 127

/-- The line and the column after the given bytes: lines count from one, and the column counts the
bytes since the last line feed. -/
def position (bytes : List UInt8) : Nat × Nat :=
  (1 + bytes.count 0x0A, (bytes.reverse.takeWhile (· != 0x0A)).length)

/-- The document that some bytes hold, with nothing but blanks around it. -/
def readBytes (bytes : ByteArray) : Except ReadError Json :=
  let bytes := bytes.toList
  let outcome : Except Stop Json :=
    match readDocument maxDepth bytes with
    | .error e => .error e
    | .ok (document, rest) =>
      match skipBlanks rest with
      | [] => .ok document
      | _ :: rest => .error ⟨.trailingCharacters, rest.length⟩
  match outcome with
  | .ok document => .ok document
  | .error e =>
    let (line, column) := position (bytes.take (bytes.length - e.left))
    .error ⟨e.cause, line, column⟩

def read (text : String) : Except ReadError Json := readBytes text.toUTF8

end HttpTest.Json
