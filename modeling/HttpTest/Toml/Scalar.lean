import HttpTest.Toml.Basic
import HttpTest.Text.Basic

/-!
# Scalars

Numbers, booleans and moments are words: runs of letters, digits and a few signs. Which scalar a
word is follows from the word alone.
-/

namespace HttpTest.Toml

def isWordChar (c : Char) : Bool :=
  c.isAlphanum || c = '_' || c = '+' || c = '-' || c = '.' || c = ':'

/-- Digits, where an underscore may stand between any two of them; the result is without them. -/
def groupedDigits? (isDigit : Char → Bool) : List Char → Option (List Char)
  | [] => none
  | [c] => if isDigit c then some [c] else none
  | c :: '_' :: rest => if isDigit c then (groupedDigits? isDigit rest).map (c :: ·) else none
  | c :: d :: rest => if isDigit c then (groupedDigits? isDigit (d :: rest)).map (c :: ·) else none

/-- Decimal digits of which the first is not zero, unless it is the only one. -/
def wholeDigits? (text : List Char) : Option (List Char) :=
  match groupedDigits? Char.isDigit text with
  | some ['0'] => some ['0']
  | some ('0' :: _) => none
  | digits => digits

def splitSign : List Char → Bool × List Char
  | '-' :: rest => (true, rest)
  | '+' :: rest => (false, rest)
  | rest => (false, rest)

def valueInBase (base : Nat) (digits : List Char) : Nat :=
  digits.foldl (fun n c => n * base + (Text.hexDigit? c).getD 0) 0

def isDigitOf (base : Nat) (c : Char) : Bool := (Text.hexDigit? c).any (· < base)

def fitting? (i : Int) : Option Toml :=
  if -2 ^ 63 ≤ i ∧ i < 2 ^ 63 then some (.integer (Int64.ofInt i)) else none

def integerInBase? (base : Nat) (text : List Char) : Option Toml :=
  (groupedDigits? (isDigitOf base) text).bind fun digits => fitting? (valueInBase base digits)

def integer? (word : List Char) : Option Toml :=
  match word with
  | '0' :: 'x' :: digits => integerInBase? 16 digits
  | '0' :: 'o' :: digits => integerInBase? 8 digits
  | '0' :: 'b' :: digits => integerInBase? 2 digits
  | word =>
    let (negative, text) := splitSign word
    (wholeDigits? text).bind fun digits =>
      let magnitude : Int := valueInBase 10 digits
      fitting? (if negative then -magnitude else magnitude)

def isExponent : List Char → Bool
  | c :: rest => (c = 'e' || c = 'E') && (groupedDigits? Char.isDigit (splitSign rest).2).isSome
  | [] => false

/-- Whether a text without its sign is a number with a fraction, an exponent, or both. -/
def isDecimal (text : List Char) : Bool :=
  let isPart (c : Char) : Bool := c.isDigit || c = '_'
  (wholeDigits? (text.takeWhile isPart)).isSome &&
  match text.dropWhile isPart with
  | '.' :: rest =>
    let exponent := rest.dropWhile isPart
    (groupedDigits? Char.isDigit (rest.takeWhile isPart)).isSome &&
      (exponent.isEmpty || isExponent exponent)
  | rest => isExponent rest

/-- The double that a word is. One that is too great is none, unless it is negative. -/
def float? (word : List Char) : Option Toml :=
  let (negative, text) := splitSign word
  if text = ['i', 'n', 'f'] then some (.float (.infinite negative))
  else if text = ['n', 'a', 'n'] then some (.float .nan)
  else if isDecimal text then
    match Number.readFloat? (word.filter (· ≠ '_')) with
    | some (.infinite false) => none
    | x => x.map .float
  else none

def boolean? (word : List Char) : Option Toml :=
  if word = ['t', 'r', 'u', 'e'] then some (.boolean true)
  else if word = ['f', 'a', 'l', 's', 'e'] then some (.boolean false)
  else none

def ofWord? (word : List Char) : Option Toml :=
  boolean? word <|> (Datetime.read? .literal word).map .datetime <|> float? word <|> integer? word

/-- The scalar that a text starts with, and the rest. A space may stand between a date and a time.
-/
def readScalar? (text : List Char) : Option (Toml × List Char) :=
  let word := text.takeWhile isWordChar
  let rest := text.dropWhile isWordChar
  match Date.read? word, rest with
  | some (_, []), ' ' :: c :: after =>
    if c.isDigit then
      let time := (c :: after).takeWhile isWordChar
      (ofWord? (word ++ ' ' :: time)).map (·, (c :: after).dropWhile isWordChar)
    else (ofWord? word).map (·, rest)
  | _, _ => (ofWord? word).map (·, rest)

end HttpTest.Toml
