import HttpTest.Number.Binary64

/-!
# Shortest decimals

Every real number strictly between the midpoints to the two neighbouring doubles reads back as the
double in the middle, and so do the midpoints themselves when its significand is even. The shortest
decimal of a double is the one of fewest digits in that interval, and of those the nearest to the
double.
-/

namespace HttpTest.Number

/-- `digits * 10 ^ exponent`. -/
structure Decimal where
  digits : Nat
  exponent : Int
  deriving DecidableEq

/-- Which of two equally near decimals is taken. -/
inductive Tie where
  | up
  | even
  deriving DecidableEq

/-- A double and the interval of reals that read back as it, all three as multiples of one quantum
`2 ^ exponent`. -/
structure Interval where
  low : Nat
  value : Nat
  high : Nat
  exponent : Int
  /-- Whether the two ends read back too. -/
  closed : Bool

/-- The interval around `mantissa * 2 ^ exponent`. Below a power of two the neighbours are half as
far apart as above it. -/
def Interval.around (mantissa : Nat) (exponent : Int) : Interval :=
  let gapBelow := if mantissa = 2 ^ 52 ∧ exponent ≠ -1074 then 1 else 2
  { low := 4 * mantissa - gapBelow
    value := 4 * mantissa
    high := 4 * mantissa + 2
    exponent := exponent - 2
    closed := mantissa % 2 = 0 }

namespace Interval

/-- The factors that turn a multiple of the quantum, and a multiple of `10 ^ place`, into multiples
of one common unit. -/
def units (i : Interval) (place : Int) : Nat × Nat :=
  (2 ^ i.exponent.toNat * 10 ^ (-place).toNat, 2 ^ (-i.exponent).toNat * 10 ^ place.toNat)

def contains (i : Interval) (digits : Nat) (place : Int) : Bool :=
  let (binary, decimal) := i.units place
  let point := digits * decimal
  if i.closed then i.low * binary ≤ point && point ≤ i.high * binary
  else i.low * binary < point && point < i.high * binary

/-- The nearest of the two neighbours of the double on the grid of multiples of `10 ^ place`, if it
or the other one reads back. -/
def nearest? (i : Interval) (tie : Tie) (place : Int) : Option Nat :=
  let (binary, decimal) := i.units place
  let below := i.value * binary / decimal
  let toBelow := i.value * binary - below * decimal
  let toAbove := (below + 1) * decimal - i.value * binary
  match i.contains below place, i.contains (below + 1) place with
  | true, true =>
      if toBelow < toAbove then some below
      else if toAbove < toBelow then some (below + 1)
      else match tie with
        | .up => some (below + 1)
        | .even => some (below + below % 2)
  | true, false => some below
  | false, true => some (below + 1)
  | false, false => none

def reaches (i : Interval) (place : Int) : Bool :=
  let (binary, decimal) := i.units place
  decimal ≤ i.value * binary

/-- The place of the first digit: the greatest `place` with `10 ^ place` not above the double. The
logarithm to base two gives a place that is right or one too great. -/
def leadingPlace (i : Interval) : Int :=
  let guess := ((Nat.log2 i.value : Int) + 1 + i.exponent) * 30103 / 100000 + 1
  if i.reaches guess then guess
  else if i.reaches (guess - 1) then guess - 1
  else guess - 2

/-- The first grid with a hit, from a grid of one digit to `fuel` digits. -/
def shortestFrom (i : Interval) (tie : Tie) (place : Int) : (fuel : Nat) → Decimal
  | 0 => ⟨(i.nearest? tie place).getD 0, place⟩
  | fuel + 1 =>
    match i.nearest? tie place with
    | some digits => ⟨digits, place⟩
    | none => i.shortestFrom tie (place - 1) fuel

end Interval

/-- The shortest decimal of a positive finite double. Seventeen digits always suffice. -/
def shortest (tie : Tie) (mantissa : Nat) (exponent : Int) : Decimal :=
  let interval := Interval.around mantissa exponent
  interval.shortestFrom tie interval.leadingPlace 16

end HttpTest.Number
