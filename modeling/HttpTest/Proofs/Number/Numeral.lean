import Mathlib.Data.List.Induction
import Mathlib.Data.List.TakeWhile
import Mathlib.Data.Nat.Digits.Defs
import HttpTest.Number.Text
import HttpTest.Text.Basic
import HttpTest.Proofs.Number.Nearest

/-!
# Numerals of integers

A numeral is a run of decimal digits with an optional sign before it (`IsNumeral`). The reader of
integers and that of decimals both accept it and agree on what it says (`readInt?_of_numeral`,
`readFloat?_of_numeral`), though the latter rounds that to a double.
-/

namespace HttpTest

namespace Text

/-- There is something in a text, and nothing of it is blank. -/
def Unblank (text : List Char) : Prop := text ≠ [] ∧ ∀ c ∈ text, isBlank c = false

instance (text : List Char) : Decidable (Unblank text) :=
  @instDecidableAnd _ _ inferInstance (List.decidableBAll _ text)

theorem Unblank.reverse {text : List Char} (h : Unblank text) : Unblank text.reverse :=
  ⟨List.reverse_ne_nil_iff.2 h.1, by simpa using h.2⟩

theorem Unblank.dropWhile_append {text : List Char} (h : Unblank text) (after : List Char) :
    (text ++ after).dropWhile isBlank = text ++ after := by
  obtain ⟨c, rest, rfl⟩ := List.exists_cons_of_ne_nil h.1
  apply List.dropWhile_cons_of_neg
  rw [h.2 c List.mem_cons_self]
  exact Bool.false_ne_true

/-- What stands between blanks, and holds none itself, is what is left. -/
theorem trim_append {before text after : List Char} (h : Unblank text)
    (hbefore : ∀ c ∈ before, isBlank c = true) (hafter : ∀ c ∈ after, isBlank c = true) :
    trim (before ++ text ++ after) = text := by
  have hafter' : ∀ c ∈ after.reverse, isBlank c = true := by simpa using hafter
  have hback := h.reverse.dropWhile_append []
  rw [List.append_nil] at hback
  rw [trim, List.append_assoc, List.dropWhile_append_of_pos hbefore, h.dropWhile_append,
    List.reverse_append, List.dropWhile_append_of_pos hafter', hback, List.reverse_reverse]

end Text

namespace Number

/-- Decimal digits, at least one of them. -/
def IsDigits (text : List Char) : Prop := text ≠ [] ∧ ∀ c ∈ text, c.isDigit = true

def digitsWorth (digits : List Char) : Nat :=
  Nat.ofDigits 10 (digits.reverse.map fun c => c.toNat - '0'.toNat)

/-- The text is a numeral of the integer: digits, with an optional sign before them. -/
inductive IsNumeral : List Char → Int → Prop where
  | unsigned {digits : List Char} (h : IsDigits digits) : IsNumeral digits (digitsWorth digits)
  | positive {digits : List Char} (h : IsDigits digits) :
      IsNumeral ('+' :: digits) (digitsWorth digits)
  | negative {digits : List Char} (h : IsDigits digits) :
      IsNumeral ('-' :: digits) (-digitsWorth digits)

theorem digitsValue_eq (digits : List Char) : digitsValue digits = digitsWorth digits := by
  induction digits using List.reverseRecOn with
  | nil => rfl
  | append_singleton digits c ih =>
    rw [digitsValue, List.foldl_append, ← digitsValue, ih, digitsWorth, digitsWorth,
      List.reverse_concat, List.map_cons, Nat.ofDigits_cons]
    show _ * 10 + _ = _ + 10 * _
    omega

theorem readNat?_of_digits {digits : List Char} (h : IsDigits digits) :
    readNat? digits = some (digitsWorth digits) := by
  have hnonempty : digits.isEmpty = false := List.isEmpty_eq_false_iff.2 h.1
  rw [readNat?, hnonempty, List.all_eq_true.2 h.2, digitsValue_eq]
  rfl

theorem readDecimal?_of_digits {digits : List Char} (h : IsDigits digits) :
    readDecimal? digits = some ⟨digitsWorth digits, 0⟩ := by
  have htake : digits.takeWhile Char.isDigit = digits := List.takeWhile_eq_self_iff.2 h.2
  have hdrop : digits.dropWhile Char.isDigit = [] := List.dropWhile_eq_nil_iff.2 h.2
  have hnonempty : digits.isEmpty = false := List.isEmpty_eq_false_iff.2 h.1
  rw [readDecimal?, htake, hdrop]
  simp [hnonempty, readExponent?, digitsValue_eq]

theorem ratio?_of_natural (n : Nat) :
    (Decimal.mk n 0).ratio? = some (n, 1) ∨ 2 ^ 64 ≤ n ∧ (Decimal.mk n 0).ratio? = none := by
  unfold Decimal.ratio?
  by_cases hzero : n = 0
  · left
    rw [hzero]
    rfl
  · rw [if_neg hzero]
    dsimp only
    by_cases hlarge : 400 < (0 : Int) + (Nat.log2 n : Int) * 30103 / 100000
    · have hlog : 64 ≤ n.log2 := by omega
      exact .inr ⟨(Nat.le_log2 hzero).1 hlog, if_pos hlarge⟩
    · left
      rw [if_neg hlarge, if_neg (by omega), if_pos le_rfl, Int.toNat_zero, Nat.pow_zero,
        Nat.mul_one]

theorem ne_sign_of_digits {c : Char} {rest : List Char} (h : IsDigits (c :: rest)) :
    c ≠ '-' ∧ c ≠ '+' := by
  have hc := h.2 c List.mem_cons_self
  constructor <;> · rintro rfl; cases hc

theorem readInt?_of_numeral {text : List Char} {n : Int} (h : IsNumeral text n) :
    readInt? text = some n := by
  cases h with
  | unsigned h =>
    rw [readInt?, readNat?_of_digits h]
    · rfl
    · rintro rest rfl
      exact (ne_sign_of_digits h).1 rfl
    · rintro rest rfl
      exact (ne_sign_of_digits h).2 rfl
  | positive h =>
    rw [readInt?, readNat?_of_digits h]
    rfl
  | negative h =>
    rw [readInt?, readNat?_of_digits h]
    rfl

theorem readDigits_eq {digits : List Char} (h : IsDigits digits) (negative : Bool) :
    let read := match readDecimal? digits with
      | some d =>
        match d.ratio? with
        | some (num, den) => some (Binary64.ofRatio negative num den)
        | none => some (.infinite negative)
      | none => readSpecial? negative digits
    read = some (Binary64.ofRatio negative (digitsWorth digits) 1) ∨
      2 ^ 64 ≤ digitsWorth digits ∧ read = some (.infinite negative) := by
  rw [readDecimal?_of_digits h]
  dsimp only
  rcases ratio?_of_natural (digitsWorth digits) with hratio | ⟨hlarge, hratio⟩
  · rw [hratio]
    exact .inl rfl
  · rw [hratio]
    exact .inr ⟨hlarge, rfl⟩

theorem readFloat?_of_numeral {text : List Char} {n : Int} (h : IsNumeral text n) :
    ∃ negative, n = Binary64.sign negative * n.natAbs ∧
      (readFloat? text = some (Binary64.ofRatio negative n.natAbs 1) ∨
        2 ^ 64 ≤ n.natAbs ∧ readFloat? text = some (.infinite negative)) := by
  cases h with
  | unsigned h =>
    refine ⟨false, by simp [Binary64.sign], ?_⟩
    rw [readFloat?, readFloatWith?]
    · exact readDigits_eq h false
    · rintro rest rfl
      exact (ne_sign_of_digits h).1 rfl
    · rintro rest rfl
      exact (ne_sign_of_digits h).2 rfl
  | positive h => exact ⟨false, by simp [Binary64.sign], readDigits_eq h false⟩
  | negative h =>
    refine ⟨true, by simp [Binary64.sign], ?_⟩
    rw [Int.natAbs_neg]
    exact readDigits_eq h true

/-! ### The numeral that is written -/

theorem isDigits_natText (n : Nat) : IsDigits (natText n) := by
  constructor
  · exact Nat.toDigits_ne_nil
  · intro c hc
    exact Nat.isDigit_of_mem_toDigits (by decide) (by decide) hc

theorem digitsWorth_natText (n : Nat) : digitsWorth (natText n) = n := by
  have hvalue : digitsValue (natText n) = Nat.ofDigitChars 10 (natText n) 0 := by
    simp only [digitsValue, Nat.ofDigitChars, Nat.mul_comm]
  rw [← digitsValue_eq, hvalue]
  exact Nat.ofDigitChars_toDigits (by decide) (by decide)

theorem readUnsigned?_natText (n : Nat) : readUnsigned? (natText n) = some n := by
  have hdigits := isDigits_natText n
  rw [readUnsigned?, readNat?_of_digits hdigits, digitsWorth_natText]
  -- a sign is no digit
  rintro rest hsign
  rw [hsign] at hdigits
  exact (ne_sign_of_digits hdigits).2 rfl

theorem isNumeral_intText (i : Int) : IsNumeral (intText i) i := by
  have hdigits := isDigits_natText i.natAbs
  have hworth := digitsWorth_natText i.natAbs
  unfold intText
  by_cases hneg : i < 0
  · have hi : i = -(digitsWorth (natText i.natAbs) : Int) := by omega
    have hnumeral := IsNumeral.negative hdigits
    rw [if_pos hneg]
    rwa [← hi] at hnumeral
  · have hi : i = (digitsWorth (natText i.natAbs) : Int) := by omega
    have hnumeral := IsNumeral.unsigned hdigits
    rw [if_neg hneg]
    rwa [← hi] at hnumeral

/-! ### Blanks around a numeral -/

theorem isBlank_of_isDigit {c : Char} (h : c.isDigit = true) : Text.isBlank c = false := by
  have hrange : 48 ≤ c.toNat ∧ c.toNat ≤ 57 := by
    simpa [Char.isDigit, UInt32.le_iff_toNat_le] using h
  rw [← Bool.not_eq_true]
  intro hblank
  simp only [Text.isBlank, Bool.or_eq_true, Bool.and_eq_true, decide_eq_true_eq, beq_iff_eq]
    at hblank
  omega

theorem IsNumeral.unblank {text : List Char} {n : Int} (h : IsNumeral text n) :
    Text.Unblank text := by
  cases h with
  | unsigned h => exact ⟨h.1, fun c hc => isBlank_of_isDigit (h.2 c hc)⟩
  | positive h =>
    exact ⟨nofun, List.forall_mem_cons.2 ⟨rfl, fun c hc => isBlank_of_isDigit (h.2 c hc)⟩⟩
  | negative h =>
    exact ⟨nofun, List.forall_mem_cons.2 ⟨rfl, fun c hc => isBlank_of_isDigit (h.2 c hc)⟩⟩

/-- The text is a numeral of the integer with nothing but blanks around it. -/
def Spells (text : List Char) (n : Int) : Prop :=
  ∃ before numeral after, text = before ++ numeral ++ after ∧ IsNumeral numeral n ∧
    (∀ c ∈ before, Text.isBlank c = true) ∧ ∀ c ∈ after, Text.isBlank c = true

theorem isNumeral_trim {text : List Char} {n : Int} (h : Spells text n) :
    IsNumeral (Text.trim text) n := by
  obtain ⟨before, numeral, after, rfl, hnumeral, hbefore, hafter⟩ := h
  rwa [Text.trim_append hnumeral.unblank hbefore hafter]

end Number

end HttpTest
