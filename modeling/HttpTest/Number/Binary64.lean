import HttpTest.Number.Rounding

/-!
# Double precision numbers

A number is not a number, infinite, or an exact dyadic `± mantissa * 2 ^ exponent` in the one form
the format has for it, so that two finite numbers are the same value of this type exactly when they
agree in sign and magnitude. Equality of numbers (`==`) is numeric: zero has no sign and what is not
a number equals nothing.
-/

namespace HttpTest.Number

/-- The form in which a magnitude `mantissa * 2 ^ exponent` is kept: 53 bits, the highest of them
set unless the exponent is the least one. -/
def Canonical (mantissa : Nat) (exponent : Int) : Prop :=
  mantissa < 2 ^ 53 ∧ -1074 ≤ exponent ∧ exponent ≤ 971 ∧ (2 ^ 52 ≤ mantissa ∨ exponent = -1074)

instance (mantissa : Nat) (exponent : Int) : Decidable (Canonical mantissa exponent) :=
  inferInstanceAs (Decidable (_ ∧ _))

inductive Binary64 where
  | nan
  | infinite (negative : Bool)
  | finite (negative : Bool) (mantissa : Nat) (exponent : Int)
      (canonical : Canonical mantissa exponent)
  deriving DecidableEq

namespace Binary64

def zero (negative : Bool) : Binary64 := .finite negative 0 (-1074) (by decide)

instance : Inhabited Binary64 := ⟨zero false⟩

/-- A significand of at most `2 ^ 53` with its exponent; what is too large is infinite. -/
def ofSignificand (negative : Bool) (significand : Nat) (exponent : Int) : Binary64 :=
  if h : Canonical significand exponent then .finite negative significand exponent h
  else if h : Canonical (2 ^ 52) (exponent + 1) then
    if significand = 2 ^ 53 then .finite negative (2 ^ 52) (exponent + 1) h else .infinite negative
  else .infinite negative

/-- The number nearest to `num / den`, a half going to the even significand. -/
def ofRatio (negative : Bool) (num den : Nat) : Binary64 :=
  if num = 0 then zero negative
  else
    let rounded := roundRatio Format.double num den
    ofSignificand negative rounded.1 rounded.2

def ofInt (i : Int) : Binary64 := ofRatio (decide (i < 0)) i.natAbs 1

def one : Binary64 := ofInt 1

/-- Infinity reached from a ratio that is too large for the single format, else the ratio rounded to
the single format, which a double holds exactly. -/
def ofRatioSingle (negative : Bool) (num den : Nat) : Binary64 :=
  if num = 0 then zero negative
  else
    let rounded := roundRatio Format.single num den
    let overflows := if rounded.1 < 2 ^ 24 then Format.single.maxExponent < rounded.2
      else Format.single.maxExponent ≤ rounded.2
    if overflows then .infinite negative
    else
      let ratio := scaleByPower rounded.1 1 (-rounded.2)
      ofRatio negative ratio.1 ratio.2

def magnitude (mantissa : Nat) (exponent : Int) : Nat × Nat := scaleByPower mantissa 1 (-exponent)

def eq : Binary64 → Binary64 → Bool
  | .nan, _ => false
  | .infinite s, .infinite t => s == t
  | .finite s m e _, .finite t n f _ => m == n && e == f && (s == t || m == 0)
  | _, _ => false

instance : BEq Binary64 := ⟨eq⟩

def isFinite : Binary64 → Bool
  | .finite .. => true
  | _ => false

def isNaN : Binary64 → Bool
  | .nan => true
  | _ => false

def isZero : Binary64 → Bool
  | .finite _ m _ _ => m == 0
  | _ => false

def neg : Binary64 → Binary64
  | .nan => .nan
  | .infinite s => .infinite (!s)
  | .finite s m e h => .finite (!s) m e h

/-- The exact product, rounded once. -/
def mul : Binary64 → Binary64 → Binary64
  | .finite s m e _, .finite t n f _ =>
      let ratio := magnitude (m * n) (e + f)
      ofRatio (s != t) ratio.1 ratio.2
  | .infinite s, .finite t n _ _ => if n = 0 then .nan else .infinite (s != t)
  | .finite s m _ _, .infinite t => if m = 0 then .nan else .infinite (s != t)
  | .infinite s, .infinite t => .infinite (s != t)
  | _, _ => .nan

/-- The exact quotient, rounded once. -/
def div : Binary64 → Binary64 → Binary64
  | .finite s m e _, .finite t n f _ =>
      if n = 0 then (if m = 0 then .nan else .infinite (s != t))
      else
        let ratio := magnitude m (e - f)
        ofRatio (s != t) ratio.1 (ratio.2 * n)
  | .infinite s, .finite t _ _ _ => .infinite (s != t)
  | .finite s _ _ _, .infinite t => zero (s != t)
  | _, _ => .nan

def toInt? : Binary64 → Option Int
  | .finite s m e _ =>
      let ratio := magnitude m e
      if ratio.1 % ratio.2 = 0 then
        let n : Int := (ratio.1 / ratio.2 : Nat)
        some (if s then -n else n)
      else none
  | _ => none

/-- The 64-bit integer for a number that denotes an integer between `-2 ^ 63` and `2 ^ 63`; the
upper bound itself, which is no 64-bit integer, becomes the greatest one. -/
def toInt64? (x : Binary64) : Option Int64 :=
  match x.toInt? with
  | none => none
  | some i =>
    if -2 ^ 63 ≤ i ∧ i ≤ 2 ^ 63 then some (if i = 2 ^ 63 then Int64.maxValue else Int64.ofInt i)
    else none

end Binary64

end HttpTest.Number
