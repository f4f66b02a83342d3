/-!
# Rounding a ratio to a binary significand

A nonnegative ratio `num / den` is written as `significand * 2 ^ exponent` with a bounded number of
significant bits. The exponent is the least one that fits the precision, but never below the least
exponent of the format, and the significand is the nearest integer, a half going to the even one.
-/

namespace HttpTest.Number

-- A power of a number is the number's own, also where powers in monoids are in scope.
attribute [instance (high), default_instance (high + 1)] instPowNat

/-- A binary floating point format: how many significant bits a finite number has, and between which
exponents its last bit lies. -/
structure Format where
  precision : Nat
  minExponent : Int
  maxExponent : Int

/-- The double format: 53 bits, the last one worth between `2 ^ -1074` and `2 ^ 971`. -/
def Format.double : Format := ⟨53, -1074, 971⟩

/-- The single format: 24 bits, the last one worth between `2 ^ -149` and `2 ^ 104`. -/
def Format.single : Format := ⟨24, -149, 104⟩

/-- The integer nearest to `num / den`; a half goes to the even neighbour. -/
def roundHalfEven (num den : Nat) : Nat :=
  let quotient := num / den
  let rest := num % den
  if 2 * rest < den then quotient
  else if den < 2 * rest then quotient + 1
  else quotient + quotient % 2

/-- `num / den` divided by `2 ^ exponent`, again as a ratio. -/
def scaleByPower (num den : Nat) (exponent : Int) : Nat × Nat :=
  if 0 ≤ exponent then (num, den * 2 ^ exponent.toNat) else (num * 2 ^ (-exponent).toNat, den)

/-- The exponent of the last bit of `num / den` when it is written with `precision` bits, ignoring
the bounds of the format. -/
def lastBitExponent (precision num den : Nat) : Int :=
  let guess : Int := (Nat.log2 num : Int) - (Nat.log2 den : Int) - (precision : Int) + 1
  let scaled := scaleByPower num den guess
  if scaled.1 / scaled.2 < 2 ^ (precision - 1) then guess - 1 else guess

/-- Significand and exponent nearest to `num / den`. The significand may reach `2 ^ precision`, when
the ratio rounds up to the next power of two. -/
def roundRatio (format : Format) (num den : Nat) : Nat × Int :=
  let exponent := max (lastBitExponent format.precision num den) format.minExponent
  let scaled := scaleByPower num den exponent
  (roundHalfEven scaled.1 scaled.2, exponent)

@[simp] theorem roundHalfEven_one (n : Nat) : roundHalfEven n 1 = n := by
  simp [roundHalfEven, Nat.mod_one]

end HttpTest.Number
