import Mathlib.Tactic.Ring
import HttpTest.Proofs.Number.Denotation

/-!
# Integers as doubles

An integer of more than 53 bits is rounded to a multiple of what its last bit is worth. No other
double is nearer to it (`roundNat_nearest`), so the double for a 64-bit integer is the nearest one
(`exists_denotes_ofInt`). What lies beyond 64 bits is rounded to the bound of those as long as it is
no further off than half a unit (`roundNat_of_two_pow_63_le`), and is then taken for the integer at
that bound (`toInt64?_ofRatio`).
-/

namespace HttpTest.Number

/-! ## Halves -/

theorem roundHalfEven_near {den : Nat} (hden : 0 < den) (num : Nat) :
    2 * |(num : Int) - roundHalfEven num den * den| ≤ den := by
  have hsplit : (num : Int) = den * (num / den : Nat) + (num % den : Nat) := by
    exact_mod_cast (Nat.div_add_mod num den).symm
  have hrest := Nat.mod_lt num hden
  have heven : num / den % 2 < 2 := Nat.mod_lt _ (by decide)
  unfold roundHalfEven
  dsimp only
  generalize num / den = quotient at *
  generalize num % den = rest at *
  have habs : ∀ x : Int, -den ≤ 2 * x → 2 * x ≤ den → 2 * |x| ≤ den := by
    intro x hlow hhigh
    cases abs_cases x <;> omega
  split
  · apply habs <;> · rw [hsplit]; linarith
  · split
    · apply habs <;> · rw [hsplit]; push_cast; linarith
    · -- just half way, whichever neighbour is taken
      obtain hzero | hone : quotient % 2 = 0 ∨ quotient % 2 = 1 := by omega
      · apply habs <;> · rw [hsplit, hzero]; push_cast; linarith
      · apply habs <;> · rw [hsplit, hone]; push_cast; linarith

/-- No multiple of the denominator is nearer to the numerator. -/
theorem roundHalfEven_nearest {den : Nat} (hden : 0 < den) (num : Nat) (k : Int) :
    |(num : Int) - roundHalfEven num den * den| ≤ |(num : Int) - k * den| := by
  have hnear := roundHalfEven_near hden num
  generalize (roundHalfEven num den : Int) = r at *
  by_cases hk : k = r
  · rw [hk]
  · -- another multiple is at least one denominator further on
    have hstep : (den : Int) ≤ |(r - k) * den| := by
      rw [abs_mul, Nat.abs_cast]
      have hone : 1 ≤ |r - k| := Int.one_le_abs (by omega)
      nlinarith
    have htri : |(r - k) * (den : Int)| ≤ |(num : Int) - k * den| + |(num : Int) - r * den| := by
      have hsub : (r - k) * (den : Int) = (num - k * den) - (num - r * den) := by ring
      rw [hsub]
      exact abs_sub _ _
    omega

theorem le_roundHalfEven (num den : Nat) : num / den ≤ roundHalfEven num den := by
  unfold roundHalfEven
  dsimp only
  split
  · omega
  · split <;> omega

theorem roundHalfEven_le (num den : Nat) : roundHalfEven num den ≤ num / den + 1 := by
  unfold roundHalfEven
  dsimp only
  split
  · omega
  · split <;> omega

theorem roundHalfEven_mul {den : Nat} (hden : 0 < den) (k : Nat) :
    roundHalfEven (k * den) den = k := by
  simp [roundHalfEven, Nat.mul_div_cancel k hden, hden]

/-! ## Naturals -/

/-- What the last of 53 bits of a natural number is worth. -/
def unit (n : Nat) : Nat := 2 ^ (n.log2 - 52)

/-- The multiple of its unit that is nearest to a natural number. -/
def roundNat (n : Nat) : Nat := roundHalfEven n (unit n) * unit n

theorem unit_pos (n : Nat) : 0 < unit n := Nat.two_pow_pos _

theorem roundNat_of_dvd {n : Nat} (h : unit n ∣ n) : roundNat n = n := by
  obtain ⟨k, hk⟩ := h
  rw [mul_comm] at hk
  unfold roundNat
  nth_rewrite 1 [hk]
  rw [roundHalfEven_mul (unit_pos n), ← hk]

theorem roundNat_of_log2_le {n : Nat} (h : n.log2 ≤ 52) : roundNat n = n := by
  apply roundNat_of_dvd
  rw [unit, show n.log2 - 52 = 0 by omega, Nat.pow_zero]
  exact one_dvd n

theorem two_pow_log2_eq {n : Nat} (h : 52 ≤ n.log2) : 2 ^ n.log2 = 2 ^ 52 * unit n := by
  rw [unit, ← Nat.pow_add]
  congr 1
  omega

theorem le_div_unit {n : Nat} (h : 52 ≤ n.log2) : 2 ^ 52 ≤ n / unit n := by
  rw [Nat.le_div_iff_mul_le (unit_pos n), ← two_pow_log2_eq h]
  exact Nat.log2_self_le (by rintro rfl; simp at h)

theorem div_unit_lt (n : Nat) : n / unit n < 2 ^ 53 := by
  rw [Nat.div_lt_iff_lt_mul (unit_pos n), unit, ← Nat.pow_add]
  apply lt_of_lt_of_le (Nat.lt_log2_self)
  apply Nat.pow_le_pow_right (by decide)
  omega

/-- A natural number is brought to 53 bits by its unit, or by a power of two if it has fewer. -/
theorem exists_scaleByPower_eq {n : Nat} (h : n ≠ 0) :
    ∃ num den, scaleByPower n 1 ((n.log2 : Int) - 52) = (num, den) ∧
      2 ^ 52 ≤ num / den ∧ num / den < 2 ^ 53 ∧
      (roundHalfEven num den : ℚ) * 2 ^ ((n.log2 : Int) - 52) = roundNat n := by
  by_cases hlarge : 52 ≤ n.log2
  · have hexp : (n.log2 : Int) - 52 = (n.log2 - 52 : Nat) := by omega
    refine ⟨n, unit n, ?_, le_div_unit hlarge, div_unit_lt n, ?_⟩
    · rw [scaleByPower, if_pos (by omega), hexp, Int.toNat_natCast, Nat.one_mul, unit]
    · rw [hexp, zpow_natCast, roundNat, unit]
      push_cast
      rfl
  · -- fewer than 53 bits are filled up with zeros, and nothing is rounded
    have hexp : (n.log2 : Int) - 52 = -(52 - n.log2 : Nat) := by omega
    have hpow : ∀ k, k ≤ 1 → 2 ^ (52 + k) = 2 ^ (n.log2 + k) * 2 ^ (52 - n.log2) := by
      intro k _
      rw [← Nat.pow_add]
      congr 1
      omega
    refine ⟨n * 2 ^ (52 - n.log2), 1, ?_, ?_, ?_, ?_⟩
    · rw [scaleByPower, if_neg (by omega), hexp, neg_neg, Int.toNat_natCast]
    · rw [Nat.div_one, hpow 0 (by decide)]
      exact Nat.mul_le_mul_right _ (Nat.log2_self_le h)
    · rw [Nat.div_one, hpow 1 (by decide)]
      exact Nat.mul_lt_mul_of_pos_right Nat.lt_log2_self (Nat.two_pow_pos _)
    · rw [roundHalfEven_one, roundNat_of_log2_le (by omega), hexp, zpow_neg, zpow_natCast]
      push_cast
      exact mul_inv_cancel_right₀ (by positivity) _

theorem exists_roundRatio_eq {n : Nat} (h : n ≠ 0) :
    ∃ significand, roundRatio Format.double n 1 = (significand, (n.log2 : Int) - 52) ∧
      2 ^ 52 ≤ significand ∧ significand ≤ 2 ^ 53 ∧
      (significand : ℚ) * 2 ^ ((n.log2 : Int) - 52) = roundNat n := by
  obtain ⟨num, den, hscale, hlow, hhigh, hvalue⟩ := exists_scaleByPower_eq h
  have hguess : (n.log2 : Int) - (Nat.log2 1 : Int) - (53 : Nat) + 1 = n.log2 - 52 := by
    have hlog : Nat.log2 1 = 0 := by decide
    omega
  -- the first guess has all the bits, and a natural number is far from the least exponent
  have hlast : lastBitExponent 53 n 1 = (n.log2 : Int) - 52 := by
    rw [lastBitExponent, hguess, hscale]
    exact if_neg (Nat.not_lt.2 hlow)
  have hexp : max (lastBitExponent Format.double.precision n 1) Format.double.minExponent
      = (n.log2 : Int) - 52 := by
    show max (lastBitExponent 53 n 1) (-1074) = _
    omega
  have hround := le_roundHalfEven num den
  have hround' := roundHalfEven_le num den
  refine ⟨roundHalfEven num den, ?_, by omega, by omega, hvalue⟩
  rw [roundRatio, hexp, hscale]

/-- No multiple of its unit is nearer to a natural number. -/
theorem roundNat_nearest_multiple (n : Nat) (k : Int) :
    |(n : ℚ) - roundNat n| ≤ |(n : ℚ) - k * unit n| := by
  have h := roundHalfEven_nearest (unit_pos n) n k
  have hround : (roundNat n : Int) = roundHalfEven n (unit n) * unit n := by
    rw [roundNat]
    push_cast
    rfl
  rw [← hround] at h
  exact_mod_cast h

theorem le_roundNat {n : Nat} (h : 52 ≤ n.log2) : 2 ^ n.log2 ≤ roundNat n := by
  rw [roundNat, two_pow_log2_eq h]
  exact Nat.mul_le_mul_right _ ((le_div_unit h).trans (le_roundHalfEven n (unit n)))

/-- Up to half a unit beyond `2 ^ 63` a number is rounded to that bound. -/
theorem roundNat_of_two_pow_63_le {n : Nat} (h : 2 ^ 63 ≤ n) :
    2 ^ 63 ≤ roundNat n ∧ (roundNat n = 2 ^ 63 ↔ n ≤ 2 ^ 63 + 2 ^ 10) := by
  have hzero : n ≠ 0 := by omega
  by_cases hlarge : n < 2 ^ 64
  · have hlog : n.log2 = 63 := (Nat.log2_eq_iff hzero).2 ⟨h, hlarge⟩
    have hunit : unit n = 2048 := by rw [unit, hlog]
    rw [roundNat, hunit, roundHalfEven]
    split
    · omega
    · split <;> omega
  · have hlog : 64 ≤ n.log2 := (Nat.le_log2 hzero).2 (by omega)
    have hpow := Nat.pow_le_pow_right (show 0 < 2 by decide) hlog
    have hround := le_roundNat (show 52 ≤ n.log2 by omega)
    omega

/-! ## Doubles -/

namespace Binary64

/-- No double is nearer to a natural number than what that is rounded to. -/
theorem roundNat_nearest {x : Binary64} {q : ℚ} (h : x.Denotes q) (n : Nat) :
    |(n : ℚ) - roundNat n| ≤ |(n : ℚ) - q| := by
  by_cases hsmall : n.log2 ≤ 52
  · rw [roundNat_of_log2_le hsmall, sub_self, abs_zero]
    exact abs_nonneg _
  · have hhighest : ((2 ^ 52 : Int) : ℚ) * unit n ≤ n := by
      have hle := Nat.log2_self_le (show n ≠ 0 by rintro rfl; simp at hsmall)
      rw [two_pow_log2_eq (by omega)] at hle
      exact_mod_cast hle
    have hunit : (unit n : ℚ) = 2 ^ (n.log2 - 52) := by
      rw [unit]
      push_cast
      rfl
    rcases h.exists_multiple_or_lt (n.log2 - 52) with ⟨c, rfl⟩ | hlt
    · rw [← hunit]
      exact roundNat_nearest_multiple n c
    · -- the highest bit of the number is a multiple, and nearer than anything below it
      rw [← hunit] at hlt
      have hnear := roundNat_nearest_multiple n (2 ^ 52)
      rw [abs_of_nonneg (sub_nonneg.2 hhighest)] at hnear
      push_cast at hnear
      have hself := le_abs_self ((n : ℚ) - q)
      linarith

theorem ofSignificand_denotes {significand : Nat} {exponent : Int} (hlow : 2 ^ 52 ≤ significand)
    (hhigh : significand ≤ 2 ^ 53) (hexp : -1074 ≤ exponent) (negative : Bool) :
    (ofSignificand negative significand exponent).Denotes
        (sign negative * (significand * 2 ^ exponent)) ∨
      970 < exponent ∧ ofSignificand negative significand exponent = .infinite negative := by
  unfold ofSignificand
  split
  · exact .inl (denotes_finite_iff.2 rfl)
  · rename_i hcanonical
    split
    · rename_i hcarry
      split
      · rename_i htop
        left
        rw [denotes_finite_iff, htop, zpow_add_one₀ (by norm_num)]
        push_cast
        ring
      · exact absurd ⟨by omega, hexp, by obtain ⟨-, -, h, -⟩ := hcarry; omega, .inl hlow⟩ hcanonical
    · rename_i hcarry
      refine .inr ⟨?_, rfl⟩
      by_contra hle
      exact hcarry ⟨by decide, by omega, by omega, .inl le_rfl⟩

/-- A natural number is rounded to the multiple of its unit, unless it is too large. -/
theorem ofRatio_nat (negative : Bool) (n : Nat) :
    (ofRatio negative n 1).Denotes (sign negative * roundNat n) ∨
      1022 < n.log2 ∧ ofRatio negative n 1 = .infinite negative := by
  unfold ofRatio
  by_cases hzero : n = 0
  · rw [if_pos hzero, hzero]
    left
    rw [zero, denotes_finite_iff, show roundNat 0 = 0 from rfl]
    simp
  · obtain ⟨significand, hround, hlow, hhigh, hvalue⟩ := exists_roundRatio_eq hzero
    rw [if_neg hzero, hround, ← hvalue]
    dsimp only
    rcases ofSignificand_denotes hlow hhigh (by omega : -1074 ≤ (n.log2 : Int) - 52) negative with
      h | ⟨hlarge, h⟩
    · exact .inl h
    · exact .inr ⟨by omega, h⟩

theorem exists_ofInt_eq (i : Int) :
    ∃ negative, i = sign negative * i.natAbs ∧ ofInt i = ofRatio negative i.natAbs 1 := by
  refine ⟨decide (i < 0), ?_, rfl⟩
  unfold sign
  by_cases h : i < 0
  · rw [decide_eq_true h, if_pos rfl]
    omega
  · rw [decide_eq_false h, if_neg Bool.false_ne_true]
    omega

/-- The one number is as near to the other as any double is. -/
def IsNearest (p q : ℚ) : Prop := ∀ (x : Binary64) (r : ℚ), x.Denotes r → |p - q| ≤ |p - r|

theorem IsNearest.eq_of_denotes {p q : ℚ} (h : IsNearest p q) {x : Binary64} (hx : x.Denotes p) :
    q = p := by
  have hzero := h x p hx
  rw [sub_self, abs_zero] at hzero
  exact (sub_eq_zero.1 (abs_nonpos_iff.1 hzero)).symm

/-- The double for an integer is the nearest one, and exact up to `2 ^ 53`. -/
theorem exists_denotes_ofInt {i : Int} (h : i.natAbs < 2 ^ 64) :
    ∃ q : ℚ, (ofInt i).Denotes q ∧ IsNearest i q ∧ (i.natAbs ≤ 2 ^ 53 → q = i) := by
  obtain ⟨negative, hi, hof⟩ := exists_ofInt_eq i
  rw [hof]
  generalize i.natAbs = n at *
  subst hi
  refine ⟨sign negative * roundNat n, ?_, fun x r hr => ?_, fun hsmall => ?_⟩
  · rcases ofRatio_nat negative n with hdenotes | ⟨hlarge, -⟩
    · exact hdenotes
    · have hlog : n.log2 < 64 := (Nat.log2_lt (by rintro rfl; simp at hlarge)).2 h
      omega
  · -- below zero it is the numbers of the other sign that are compared
    cases negative with
    | false => simpa [sign] using roundNat_nearest hr n
    | true =>
      have hnear := roundNat_nearest hr.neg n
      have hflip : ∀ p : ℚ, (sign true * n : Int) - p = -(n - -p) := by
        intro p
        have hneg : ((sign true * n : Int) : ℚ) = -n := by simp [sign]
        rw [hneg]
        ring
      rw [hflip, hflip, abs_neg, abs_neg]
      simpa [sign] using hnear
  · push_cast
    congr 2
    by_cases htop : n = 2 ^ 53
    · rw [htop]
      decide +kernel
    · apply roundNat_of_log2_le
      by_cases hzero : n = 0
      · simp [hzero]
      · have hlog : n.log2 < 53 := (Nat.log2_lt hzero).2 (by omega)
        omega

/-- A number beyond 64 bits that rounds to the bound is taken for the integer next to that. -/
theorem toInt64?_ofRatio {n : Nat} (h : 2 ^ 63 ≤ n) (negative : Bool) (i : Int64) :
    (ofRatio negative n 1).toInt64? = some i ↔
      n ≤ 2 ^ 63 + 2 ^ 10 ∧ i = if negative then Int64.minValue else Int64.maxValue := by
  obtain ⟨hround, hbound⟩ := roundNat_of_two_pow_63_le h
  have hlow := i.le_toInt
  have hhigh := i.toInt_lt
  rw [toInt64?_eq_some_iff, ← hbound]
  rcases ofRatio_nat negative n with hdenotes | ⟨hlarge, hinfinite⟩
  · have hiff : ∀ k : Int, (ofRatio negative n 1).Denotes k ↔ sign negative * roundNat n = k := by
      intro k
      constructor
      · intro hk
        exact_mod_cast hdenotes.unique hk
      · rintro rfl
        exact_mod_cast hdenotes
    rw [show (2 : ℚ) ^ 63 = (2 ^ 63 : Int) by norm_num, hiff, hiff]
    cases negative <;>
      simp only [sign, Bool.false_eq_true, if_false, if_true, eq_maxValue_iff, eq_minValue_iff] <;>
      omega
  · rw [hinfinite]
    refine iff_of_false (by rintro (hi | ⟨hi, -⟩) <;> cases hi) fun hi => ?_
    -- infinity is far beyond what rounds to the bound
    have hlog : 64 ≤ n.log2 := by omega
    have hpow := Nat.pow_le_pow_right (show 0 < 2 by decide) hlog
    have hround' := le_roundNat (show 52 ≤ n.log2 by omega)
    omega

end Binary64

end HttpTest.Number
