import HttpTest.Number.Text

/-!
# Dates and times

The four kinds of moments that TOML can name. Reading accepts dates that exist, times of day with an
optional fraction of a second, of which nine digits count, and offsets; in a string a little more is
accepted than in a document. The written form has one spelling for each moment.
-/

namespace HttpTest.Toml

structure Date where
  year : Nat
  month : Nat
  day : Nat
  deriving DecidableEq

/-- A time of day. A second of 60 is a leap second. -/
structure Time where
  hour : Nat
  minute : Nat
  second : Nat
  nanosecond : Nat
  deriving DecidableEq

inductive Offset where
  | universal
  | minutes (count : Int)
  deriving DecidableEq

inductive Datetime where
  | localDate (date : Date)
  | localTime (time : Time)
  | localDatetime (date : Date) (time : Time)
  | offsetDatetime (date : Date) (time : Time) (offset : Offset)
  deriving DecidableEq

def padded (width n : Nat) : List Char :=
  let digits := Number.natText n
  List.replicate (width - digits.length) '0' ++ digits

/-! ### Dates -/

namespace Date

def isLeap (year : Nat) : Bool := year % 4 = 0 && (year % 100 ≠ 0 || year % 400 = 0)

def daysIn (year month : Nat) : Nat :=
  if month = 2 then (if isLeap year then 29 else 28)
  else if month = 4 ∨ month = 6 ∨ month = 9 ∨ month = 11 then 30
  else 31

def isReal (date : Date) : Bool :=
  1 ≤ date.month && date.month ≤ 12 && 1 ≤ date.day && date.day ≤ daysIn date.year date.month

def text (date : Date) : List Char :=
  padded 4 date.year ++ '-' :: padded 2 date.month ++ '-' :: padded 2 date.day

def read? : List Char → Option (Date × List Char)
  | a :: b :: c :: d :: '-' :: e :: f :: '-' :: g :: h :: rest =>
    match Number.readNat? [a, b, c, d], Number.readNat? [e, f], Number.readNat? [g, h] with
    | some year, some month, some day =>
      let date : Date := ⟨year, month, day⟩
      if date.isReal then some (date, rest) else none
    | _, _, _ => none
  | _ => none

end Date

/-! ### Times -/

inductive Datetime.Setting where
  /-- In a document, as a value of its own. -/
  | literal
  /-- In a string. -/
  | quoted
  deriving DecidableEq

namespace Time

/-- The digits after the point of a second, without the zeros at their end. -/
def fractionText (nanosecond : Nat) : List Char :=
  if nanosecond = 0 then []
  else '.' :: ((padded 9 nanosecond).reverse.dropWhile (· = '0')).reverse

def text (time : Time) : List Char :=
  padded 2 time.hour ++ ':' :: padded 2 time.minute ++ ':' :: padded 2 time.second
    ++ fractionText time.nanosecond

/-- The nanoseconds of a fraction; digits after the ninth do not count. -/
def nanoseconds (digits : List Char) : Nat :=
  let counted := digits.take 9
  Number.digitsValue counted * 10 ^ (9 - counted.length)

def readClock? : List Char → Option ((Nat × Nat) × List Char)
  | a :: b :: ':' :: c :: d :: rest =>
    match Number.readNat? [a, b], Number.readNat? [c, d] with
    | some hour, some minute => some ((hour, minute), rest)
    | _, _ => none
  | _ => none

/-- Whether hours and minutes are a time of day. In a string the day may end at 24 hours, and the
minutes after them count too. -/
def isClock (setting : Datetime.Setting) (hour minute : Nat) : Bool :=
  hour < (if setting = .quoted then 25 else 24) && minute < 60

def readFraction? (text : List Char) : Option (Nat × List Char) :=
  match text with
  | '.' :: rest =>
    let digits := rest.takeWhile Char.isDigit
    if digits.isEmpty then none else some (nanoseconds digits, rest.dropWhile Char.isDigit)
  | rest => some (0, rest)

def read? (setting : Datetime.Setting) (text : List Char) : Option (Time × List Char) :=
  match readClock? text with
  | some ((hour, minute), ':' :: a :: b :: rest) =>
    match Number.readNat? [a, b], readFraction? rest with
    | some second, some (nanosecond, rest) =>
      if isClock setting hour minute ∧ second ≤ 60 then
        some (⟨hour, minute, second, nanosecond⟩, rest)
      else none
    | _, _ => none
  | _ => none

end Time

/-! ### Offsets -/

namespace Offset

def text : Offset → List Char
  | .universal => ['Z']
  | .minutes count =>
    (if count < 0 then '-' else '+') ::
      padded 2 (count.natAbs / 60) ++ ':' :: padded 2 (count.natAbs % 60)

/-- Whether hours and minutes are a distance. In a string it is at most a day, however many minutes
of an hour are given. -/
def isDistance (setting : Datetime.Setting) (hour minute : Nat) : Bool :=
  match setting with
  | .literal => Time.isClock .literal hour minute
  | .quoted => hour * 60 + minute ≤ 24 * 60

def read? (setting : Datetime.Setting) : List Char → Option Offset
  | ['Z'] | ['z'] => some .universal
  | sign :: rest =>
    match Time.readClock? rest with
    | some ((hour, minute), []) =>
      if !isDistance setting hour minute then none
      else if sign = '+' then some (.minutes (hour * 60 + minute))
      else if sign = '-' then some (.minutes (-(hour * 60 + minute)))
      else none
    | _ => none
  | [] => none

end Offset

/-! ### Moments -/

namespace Datetime

def text : Datetime → List Char
  | .localDate date => date.text
  | .localTime time => time.text
  | .localDatetime date time => date.text ++ 'T' :: time.text
  | .offsetDatetime date time offset => date.text ++ 'T' :: time.text ++ offset.text

def isSeparator (c : Char) : Bool := c = 'T' || c = 't' || c = ' '

def read? (setting : Setting) (text : List Char) : Option Datetime :=
  match Date.read? text with
  | some (date, []) => some (.localDate date)
  | some (date, separator :: rest) =>
    if isSeparator separator then
      match Time.read? setting rest with
      | some (time, []) => some (.localDatetime date time)
      | some (time, rest) => (Offset.read? setting rest).map (.offsetDatetime date time)
      | none => none
    else none
  | none =>
    match Time.read? setting text with
    | some (time, []) => some (.localTime time)
    | _ => none

end Datetime

end HttpTest.Toml
