import HttpTest.Text.Basic

/-!
# Quotations

Strings in a TOML text stand between double quotes, where a backslash introduces an escape, or
between single quotes, where it does not. Three quotes open a string that may span lines.
-/

namespace HttpTest.Toml

def isSpace (c : Char) : Bool := c = ' ' || c = '\t'

def skipSpaces (text : List Char) : List Char := text.dropWhile isSpace

def isTextChar (c : Char) : Bool := c = '\t' || (0x20 ≤ c.toNat && c.toNat ≠ 0x7F)

def isBareChar (c : Char) : Bool := c.isAlphanum || c = '_' || c = '-'

def afterBreak? : List Char → Option (List Char)
  | '\n' :: rest => some rest
  | '\r' :: '\n' :: rest => some rest
  | _ => none

def skipBreaks : List Char → List Char
  | '\r' :: '\n' :: rest => skipBreaks rest
  | c :: rest => if isSpace c || c = '\n' then skipBreaks rest else c :: rest
  | [] => []

inductive Quotation where
  /-- Between double quotes, with escapes. -/
  | basic
  /-- Between single quotes, without escapes. -/
  | literal
  deriving DecidableEq

namespace Quotation

def mark : Quotation → Char
  | .basic => '"'
  | .literal => '\''

def ofMark? (c : Char) : Option Quotation :=
  if c = '"' then some .basic else if c = '\'' then some .literal else none

def escaped? (c : Char) : Option Char :=
  if c = '"' ∨ c = '\\' then some c
  else if c = 'b' then some '\x08'
  else if c = 't' then some '\t'
  else if c = 'n' then some '\n'
  else if c = 'f' then some '\x0C'
  else if c = 'r' then some '\r'
  else none

def readCodePoint? (width : Nat) (text : List Char) : Option (Char × List Char) :=
  match (text.take width).mapM Text.hexDigit? with
  | none => none
  | some digits =>
    let n := digits.foldl (fun n d => n * 16 + d) 0
    if digits.length = width ∧ n.isValidChar then some (Char.ofNat n, text.drop width) else none

def readEscape? : List Char → Option (Char × List Char)
  | 'u' :: rest => readCodePoint? 4 rest
  | 'U' :: rest => readCodePoint? 8 rest
  | c :: rest => (escaped? c).map (·, rest)
  | [] => none

/-- A string on one line after its opening quote; `read` holds its characters so far, the last one
first. -/
def readSingle (quotation : Quotation) (read : List Char) :
    (fuel : Nat) → List Char → Option (String × List Char)
  | 0, _ => none
  | _, [] => none
  | fuel + 1, c :: rest =>
    if c = quotation.mark then some (String.ofList read.reverse, rest)
    else if c = '\\' ∧ quotation = .basic then
      (readEscape? rest).bind fun (c, rest) => readSingle quotation (c :: read) fuel rest
    else if isTextChar c then readSingle quotation (c :: read) fuel rest
    else none

/-- What follows a backslash at the end of a line, which the spaces and lines after it belong to. -/
def afterContinuation? (text : List Char) : Option (List Char) :=
  (afterBreak? (skipSpaces text)).map skipBreaks

/-- A string on several lines after its opening quotes; `read` holds its characters so far, the last
one first. Up to two quotes stand for themselves, also right before the three that close it. A line
break is a line feed. -/
def readMultiline (quotation : Quotation) (read : List Char) :
    (fuel : Nat) → List Char → Option (String × List Char)
  | 0, _ => none
  | _, [] => none
  | fuel + 1, c :: rest =>
    if c = quotation.mark then
      let quotes := (c :: rest).takeWhile (· = c)
      let rest := (c :: rest).dropWhile (· = c)
      if quotes.length < 3 then readMultiline quotation (quotes ++ read) fuel rest
      else if quotes.length ≤ 5 then some (String.ofList ((quotes.drop 3) ++ read).reverse, rest)
      else none
    else if c = '\\' ∧ quotation = .basic then
      match afterContinuation? rest with
      | some rest => readMultiline quotation read fuel rest
      | none =>
        (readEscape? rest).bind fun (c, rest) => readMultiline quotation (c :: read) fuel rest
    else match afterBreak? (c :: rest) with
      | some rest => readMultiline quotation ('\n' :: read) fuel rest
      | none => if isTextChar c then readMultiline quotation (c :: read) fuel rest else none

def readLine? (text : List Char) : Option (String × List Char) :=
  match text with
  | [] => none
  | c :: rest => (ofMark? c).bind fun quotation => readSingle quotation [] (rest.length + 1) rest

/-- The text between the quotes of a string of any form, and the rest. A line break right after
three opening quotes does not count. -/
def read? (text : List Char) : Option (String × List Char) :=
  match text with
  | a :: b :: c :: rest =>
    if a = b ∧ b = c then
      (ofMark? a).bind fun quotation =>
        let rest := (afterBreak? rest).getD rest
        readMultiline quotation [] (rest.length + 1) rest
    else readLine? text
  | _ => readLine? text

end Quotation

end HttpTest.Toml
