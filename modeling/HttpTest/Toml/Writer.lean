import HttpTest.Toml.Quotation
import HttpTest.Number.Text

/-!
# Writing TOML

Strings are quoted in the plainest way that shows them without escapes; only where there is none are
escapes used. Keys stand without quotes if they can.
-/

namespace HttpTest.Toml

def longestRun (c : Char) : (current : Nat) → List Char → Nat
  | _, [] => 0
  | current, d :: rest =>
    if d = c then max (current + 1) (longestRun c (current + 1) rest) else longestRun c 0 rest

/-- Whether a character can be written only as an escape: the control characters of ASCII but line
feed and tab. -/
def needsEscape (c : Char) : Bool := !(isTextChar c || c = '\n')

inductive StringForm where
  | single (quotation : Quotation)
  | multiline (quotation : Quotation)
  deriving DecidableEq

/-- How a string is written: in double quotes if nothing has to be escaped, else in single quotes if
those allow it, then in three double or three single quotes, and last with escapes. -/
def formOf (text : List Char) : StringForm :=
  let control := text.any needsEscape
  let backslash := text.contains '\\'
  let breaks := text.contains '\n'
  let doubles := longestRun '"' 0 text
  let singles := longestRun '\'' 0 text
  if !control && !backslash && !breaks && doubles = 0 then .single .basic
  else if !control && !breaks && singles = 0 then .single .literal
  else if !control && !backslash && doubles ≤ 2 then .multiline .basic
  else if !control && singles ≤ 2 then .multiline .literal
  else if breaks then .multiline .basic
  else .single .basic

def hexWord (n : Nat) : List Char :=
  let digits := (Nat.toDigits 16 n).map Char.toUpper
  List.replicate (4 - digits.length) '0' ++ digits

def escapedChar (c : Char) : List Char :=
  if c = '\\' then ['\\', '\\']
  else if c = '\x08' then ['\\', 'b']
  else if c = '\t' then ['\\', 't']
  else if c = '\x0C' then ['\\', 'f']
  else if c = '\r' then ['\\', 'r']
  else if needsEscape c then '\\' :: 'u' :: hexWord c.toNat
  else [c]

/-- The text in double quotes. `allowed` quotes in a row stand for themselves and `quotes` of them
were just written; a line feed is an escape where a string has one line. -/
def escapedText (multiline : Bool) (allowed quotes : Nat) : List Char → List Char
  | [] => []
  | c :: rest =>
    if c = '"' then
      if quotes < allowed then '"' :: escapedText multiline allowed (quotes + 1) rest
      else '\\' :: '"' :: escapedText multiline allowed 0 rest
    else if c = '\n' then
      (if multiline then ['\n'] else ['\\', 'n']) ++ escapedText multiline allowed 0 rest
    else escapedChar c ++ escapedText multiline allowed 0 rest

/-- A string in a form. A line break follows three opening quotes if the string has one. -/
def StringForm.write (text : List Char) : StringForm → List Char
  | .single .basic => '"' :: escapedText false 0 0 text ++ ['"']
  | .single .literal => '\'' :: text ++ ['\'']
  | .multiline quotation =>
    let marks := List.replicate 3 quotation.mark
    let body := if quotation = .basic then escapedText true 2 0 text else text
    marks ++ (if text.contains '\n' then ['\n'] else []) ++ body ++ marks

def stringText (s : String) : List Char := (formOf s.toList).write s.toList

/-- A string as a key, which is on one line. -/
def keyText (s : String) : List Char :=
  let text := s.toList
  let control := text.any fun c => needsEscape c || c = '\n'
  if !text.isEmpty && text.all isBareChar then text
  else if !control && !text.contains '\\' && !text.contains '"' then
    (StringForm.single .basic).write text
  else if !control && !text.contains '\'' then (StringForm.single .literal).write text
  else (StringForm.single .basic).write text

def pairLine (key : String) (value : List Char) : List Char :=
  keyText key ++ [' ', '=', ' '] ++ value ++ ['\n']

def headerLine (path : List String) : List Char :=
  '[' :: Text.joinWith ['.'] (path.map keyText) ++ [']', '\n']

end HttpTest.Toml
