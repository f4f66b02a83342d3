import Mathlib.Algebra.Order.Field.Power
import Mathlib.Algebra.Order.Field.Rat
import Mathlib.Tactic.FieldSimp
import Mathlib.Tactic.Linarith
import Mathlib.Tactic.Positivity
import Mathlib.Tactic.Ring
import HttpTest.Number.Binary64

/-!
# What a double denotes

A finite double is an exact rational number (`Binary64.Denotes`). The format has one form for each
magnitude, so numbers are equal as doubles exactly if they denote the same (`eq_iff_denotes`), and
an integer is read off a double exactly where the double denotes it (`toInt?_eq_some_iff`). Only the
bound of the 64-bit integers is taken for an integer that it does not denote
(`toInt64?_eq_some_iff`).
-/

namespace HttpTest.Number

theorem scaleByPower_cast (num den : Nat) (exponent : Int) :
    ((scaleByPower num den exponent).1 : ℚ) / (scaleByPower num den exponent).2
      = num / den * 2 ^ (-exponent) := by
  unfold scaleByPower
  by_cases h : 0 ≤ exponent
  · obtain ⟨k, rfl⟩ := Int.eq_ofNat_of_zero_le h
    rw [if_pos h]
    simp [div_eq_mul_inv, mul_assoc, mul_comm]
  · obtain ⟨k, hk⟩ := Int.eq_ofNat_of_zero_le (show 0 ≤ -exponent by omega)
    rw [if_neg h, hk]
    simp [div_mul_eq_mul_div]

theorem scaleByPower_snd_pos {den : Nat} (hden : 0 < den) (num : Nat) (exponent : Int) :
    0 < (scaleByPower num den exponent).2 := by
  unfold scaleByPower
  split
  · exact Nat.mul_pos hden (Nat.two_pow_pos _)
  · exact hden

/-- Of two forms of one magnitude neither has the smaller exponent: it would have to have a bit more
than the format has. -/
theorem Canonical.exponent_le {m n : Nat} {e f : Int} (hm : Canonical m e) (hn : Canonical n f)
    (h : (m : ℚ) * 2 ^ e = n * 2 ^ f) : f ≤ e := by
  by_contra hlt
  obtain ⟨hbits, hleast, -, -⟩ := hm
  obtain ⟨-, -, -, hnormal⟩ := hn
  obtain ⟨k, hk⟩ : ∃ k : Nat, f = e + (k + 1 : Nat) := ⟨(f - e - 1).toNat, by omega⟩
  have hmul : m = n * 2 ^ (k + 1) := by
    have hpos : (0 : ℚ) < 2 ^ e := by positivity
    rw [hk, zpow_add₀ (by norm_num), zpow_natCast] at h
    have hq : (m : ℚ) = n * 2 ^ (k + 1) := by
      apply mul_right_cancel₀ hpos.ne'
      linarith
    exact_mod_cast hq
  have hlarge : 2 ^ 52 ≤ n := by omega
  have hpow : 0 < 2 ^ k := Nat.two_pow_pos k
  rw [pow_succ] at hmul
  nlinarith

theorem Canonical.unique {m n : Nat} {e f : Int} (hm : Canonical m e) (hn : Canonical n f)
    (h : (m : ℚ) * 2 ^ e = n * 2 ^ f) : m = n ∧ e = f := by
  obtain rfl : e = f := le_antisymm (hn.exponent_le hm h.symm) (hm.exponent_le hn h)
  have hpos : (0 : ℚ) < 2 ^ e := by positivity
  exact ⟨by exact_mod_cast mul_right_cancel₀ hpos.ne' h, rfl⟩

theorem eq_maxValue_iff {i : Int64} : i = Int64.maxValue ↔ i.toInt = 2 ^ 63 - 1 :=
  Int64.toInt_inj.symm

theorem eq_minValue_iff {i : Int64} : i = Int64.minValue ↔ i.toInt = -2 ^ 63 :=
  Int64.toInt_inj.symm

namespace Binary64

def sign (negative : Bool) : Int := if negative then -1 else 1

def toRat? : Binary64 → Option ℚ
  | .finite negative mantissa exponent _ => some (sign negative * (mantissa * 2 ^ exponent))
  | _ => none

/-- The number is finite and denotes the rational number. -/
def Denotes (x : Binary64) (q : ℚ) : Prop := x.toRat? = some q

theorem denotes_finite_iff {negative : Bool} {mantissa : Nat} {exponent : Int}
    {h : Canonical mantissa exponent} {q : ℚ} :
    (finite negative mantissa exponent h).Denotes q ↔
      sign negative * (mantissa * 2 ^ exponent) = q :=
  Option.some_inj

theorem Denotes.unique {x : Binary64} {q r : ℚ} (hq : x.Denotes q) (hr : x.Denotes r) : q = r :=
  Option.some_inj.1 (hq.symm.trans hr)

theorem Denotes.neg {x : Binary64} {q : ℚ} (h : x.Denotes q) : x.neg.Denotes (-q) := by
  cases x with
  | finite negative mantissa exponent canonical =>
    rw [denotes_finite_iff] at h
    rw [Binary64.neg, denotes_finite_iff, ← h]
    cases negative <;> simp [sign]
  | nan => cases h
  | infinite negative => cases h

/-- A double is a multiple of a power of two, or else it lacks the highest bit that a multiple of 53
bits would have. -/
theorem Denotes.exists_multiple_or_lt {x : Binary64} {q : ℚ} (h : x.Denotes q) (k : Nat) :
    (∃ c : Int, q = c * 2 ^ k) ∨ q < 2 ^ 52 * 2 ^ k := by
  cases x with
  | nan => cases h
  | infinite negative => cases h
  | finite negative m e canonical =>
    rw [denotes_finite_iff] at h
    by_cases he : (k : Int) ≤ e
    · obtain ⟨j, hj⟩ := Int.eq_ofNat_of_zero_le (Int.sub_nonneg.2 he)
      refine .inl ⟨sign negative * (m * 2 ^ j), ?_⟩
      rw [← h, show e = (j : Int) + k by omega, zpow_add₀ (by norm_num), zpow_natCast, zpow_natCast]
      push_cast
      ring
    · -- the last bit is worth less than `2 ^ k`, so 53 of them stay below the bound
      have hbits : (m : ℚ) < 2 ^ 53 := by exact_mod_cast canonical.1
      have hexp : (2 : ℚ) ^ e ≤ 2 ^ ((k : Int) - 1) :=
        zpow_le_zpow_right₀ (by norm_num) (by omega)
      have hpos : (0 : ℚ) < 2 ^ e := by positivity
      have hmagnitude : (m : ℚ) * 2 ^ e < 2 ^ 53 * 2 ^ ((k : Int) - 1) :=
        mul_lt_mul hbits hexp hpos (by positivity)
      have hnonneg : (0 : ℚ) ≤ m * 2 ^ e := by positivity
      rw [zpow_sub_one₀ (by norm_num), zpow_natCast] at hmagnitude
      right
      rw [← h]
      cases negative <;> simp [sign] <;> linarith

theorem eq_iff_denotes {x : Binary64} {q : ℚ} (h : x.Denotes q) (y : Binary64) :
    x.eq y = true ↔ y.Denotes q := by
  cases x with
  | nan => cases h
  | infinite negative => cases h
  | finite s m e hm =>
    cases y with
    | nan => exact iff_of_false Bool.false_ne_true nofun
    | infinite negative => exact iff_of_false Bool.false_ne_true nofun
    | finite t n f hn =>
      rw [denotes_finite_iff] at h ⊢
      rw [← h, Binary64.eq]
      simp only [Bool.and_eq_true, Bool.or_eq_true, beq_iff_eq]
      have he : (0 : ℚ) < 2 ^ e := by positivity
      have hf : (0 : ℚ) < 2 ^ f := by positivity
      constructor
      · rintro ⟨⟨rfl, rfl⟩, rfl | rfl⟩
        · rfl
        · simp
      · intro hsame
        have habs : (m : ℚ) * 2 ^ e = n * 2 ^ f := by
          have hm0 : (0 : ℚ) ≤ m * 2 ^ e := by positivity
          have hn0 : (0 : ℚ) ≤ n * 2 ^ f := by positivity
          cases s <;> cases t <;> simp [sign] at hsame <;> linarith
        -- a magnitude has one canonical form, so what is left to compare are the signs
        obtain ⟨rfl, rfl⟩ := hm.unique hn habs
        refine ⟨⟨rfl, rfl⟩, ?_⟩
        by_cases hzero : m = 0
        · exact .inr hzero
        · have hpos : (0 : ℚ) < m * 2 ^ e := by positivity
          cases s <;> cases t <;> simp [sign] at hsame ⊢ <;> linarith

theorem magnitude_cast (mantissa : Nat) (exponent : Int) :
    ((magnitude mantissa exponent).1 : ℚ) / (magnitude mantissa exponent).2
      = mantissa * 2 ^ exponent := by
  rw [magnitude, scaleByPower_cast, neg_neg, Nat.cast_one, div_one]

theorem toInt?_eq_some_iff {x : Binary64} {i : Int} : x.toInt? = some i ↔ x.Denotes i := by
  cases x with
  | nan => exact iff_of_false nofun nofun
  | infinite negative => exact iff_of_false nofun nofun
  | finite s m e h =>
    have hpos : 0 < (magnitude m e).2 := scaleByPower_snd_pos Nat.one_pos m (-e)
    rw [denotes_finite_iff, ← magnitude_cast, toInt?]
    generalize (magnitude m e).1 = num at *
    generalize (magnitude m e).2 = den at *
    have hden : (den : ℚ) ≠ 0 := by positivity
    dsimp only
    by_cases hdvd : num % den = 0
    · obtain ⟨k, rfl⟩ := Nat.dvd_of_mod_eq_zero hdvd
      have hquot : ((den * k : Nat) : ℚ) / den = k := by
        push_cast
        field_simp
      rw [if_pos hdvd, Nat.mul_div_cancel_left k hpos, hquot, Option.some_inj]
      cases s <;> simp [sign] <;> norm_cast
    · -- a ratio that is an integer has a numerator that the denominator divides
      rw [if_neg hdvd]
      refine iff_of_false nofun fun hint => hdvd ?_
      have hmul : (num : ℚ) = den * (sign s * i : Int) := by
        rw [Int.cast_mul, ← hint]
        cases s <;> simp [sign] <;> field_simp
      have hdvd' : (den : Int) ∣ num := ⟨sign s * i, by exact_mod_cast hmul⟩
      exact Nat.mod_eq_zero_of_dvd (Int.natCast_dvd_natCast.1 hdvd')

/-- What is taken for a 64-bit integer denotes it, only `2 ^ 63` is taken for the greatest. -/
theorem toInt64?_eq_some_iff {x : Binary64} {i : Int64} :
    x.toInt64? = some i ↔
      x.Denotes i.toInt ∨ x.Denotes (2 ^ 63) ∧ i = Int64.maxValue := by
  have hbound : x.Denotes (2 ^ 63) ↔ x.toInt? = some (2 ^ 63) := by
    rw [toInt?_eq_some_iff]
    norm_num
  rw [hbound, ← toInt?_eq_some_iff, toInt64?]
  have hlow := i.le_toInt
  have hhigh := i.toInt_lt
  cases x.toInt? with
  | none => simp
  | some n =>
    dsimp only
    rw [Option.some_inj, Option.some_inj]
    by_cases hrange : -2 ^ 63 ≤ n ∧ n ≤ 2 ^ 63
    · rw [if_pos hrange, Option.some_inj]
      -- the range reaches one further than 64 bits do, and what is there is clamped
      by_cases htop : n = 2 ^ 63
      · rw [if_pos htop]
        constructor
        · rintro rfl
          exact .inr ⟨htop, rfl⟩
        · rintro (h | ⟨-, rfl⟩)
          · omega
          · rfl
      · rw [if_neg htop]
        have hn : (Int64.ofInt n).toInt = n := Int64.toInt_ofInt_of_le (by omega) (by omega)
        rw [← Int64.toInt_inj, hn]
        exact (or_iff_left fun h => htop h.1).symm
    · rw [if_neg hrange]
      refine iff_of_false nofun ?_
      rintro (h | ⟨h, -⟩) <;> omega

end Binary64

end HttpTest.Number
