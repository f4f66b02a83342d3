import HttpTest.Proofs.Number.Numeral
import HttpTest.Proofs.Value.Acceptance

/-!
# Coercion between integers, doubles and numerals

Coercion keeps the number that a value stands for, with two exceptions. An integer that no double
denotes becomes the nearest double, and is then equal to that; and what is not far beyond the bounds
of the 64-bit integers, as a double or as a numeral, becomes the integer at the bound.
-/

namespace HttpTest

open Number (Binary64 Spells IsNumeral)

/-- The 64-bit integer that a numeral of an integer is taken for: the integer itself, or else the
one at a bound that the integer lies beyond, by no more than half of what the last bit of a double
is worth there. -/
def Number.IsTakenFor (n : Int) (i : Int64) : Prop :=
  i.toInt = n ∨ (2 ^ 63 ≤ n ∧ n ≤ 2 ^ 63 + 2 ^ 10 ∧ i = Int64.maxValue) ∨
    (-2 ^ 63 - 2 ^ 10 ≤ n ∧ n < -2 ^ 63 ∧ i = Int64.minValue)

namespace Value

open Number (IsTakenFor)

theorem coerceTo_eq_ok_iff {value converted : Value} {target : Kind} (h : value.kind ≠ target) :
    value.coerceTo target = .ok converted ↔ value.scalarAs? target = some converted := by
  rw [coerceTo, if_neg h]
  cases value.scalarAs? target <;> simp

theorem coerceTo_of_string_iff {s : String} {target : Kind} (h : target ≠ .string)
    {converted : Value} : (Value.string s).coerceTo target = .ok converted ↔
      (Value.string s).scalarAs? target = some converted :=
  coerceTo_eq_ok_iff (show (Value.string s).kind ≠ target from h.symm)

theorem coerceTo_int_of_float_iff (x : Binary64) (i : Int64) :
    (Value.float x).coerceTo .int = .ok (.int i) ↔
      x.Denotes i.toInt ∨ x.Denotes (2 ^ 63) ∧ i = Int64.maxValue := by
  have hkind : (Value.float x).kind ≠ .int := by
    show Kind.float ≠ .int
    decide
  rw [← Binary64.toInt64?_eq_some_iff, coerceTo_eq_ok_iff hkind, scalarAs?]
  cases x.toInt64? <;> simp

theorem readInt64?_of_numeral {text : List Char} {n : Int} (h : IsNumeral text n) (i : Int64) :
    readInt64? text = some i ↔ IsTakenFor n i := by
  have hlow := i.le_toInt
  have hhigh := i.toInt_lt
  rw [readInt64?, Number.readInt64?, Number.readInt?_of_numeral h, IsTakenFor]
  dsimp only
  by_cases hrange : -2 ^ 63 ≤ n ∧ n < 2 ^ 63
  · have hn : (Int64.ofInt n).toInt = n := Int64.toInt_ofInt_of_le (by omega) (by omega)
    rw [if_pos hrange]
    dsimp only
    rw [Option.some_inj, ← Int64.toInt_inj, hn]
    omega
  · -- the reader of integers refuses the numeral, and that of doubles rounds it
    obtain ⟨negative, hsign, hread⟩ := Number.readFloat?_of_numeral h
    rw [if_neg hrange]
    dsimp only
    have hbound : 2 ^ 63 ≤ n.natAbs := by omega
    rcases hread with hread | ⟨hlarge, hread⟩
    · rw [hread, Option.bind_some, Binary64.toInt64?_ofRatio hbound]
      cases negative <;>
        simp only [Binary64.sign, Bool.false_eq_true, if_false, if_true, Number.eq_maxValue_iff,
          Number.eq_minValue_iff] at hsign ⊢ <;>
        omega
    · rw [hread, Option.bind_some]
      refine iff_of_false (by intro hnone; cases hnone) ?_
      omega

theorem coerceTo_int_of_spells_iff {s : String} {n : Int} (h : Spells s.toList n) (i : Int64) :
    (Value.string s).coerceTo .int = .ok (.int i) ↔ IsTakenFor n i := by
  rw [← readInt64?_of_numeral (Number.isNumeral_trim h), coerceTo_of_string_iff (by decide),
    scalarAs?]
  cases readInt64? (Text.trim s.toList) <;> simp

end Value

namespace Check

open Number (IsTakenFor)

theorem equal_int_iff (i : Int64) (actual : Value) :
    equal (.int i) actual = .ok () ↔ actual.coerceTo .int = .ok (.int i) := by
  rw [equal_eq_ok_iff, Value.matchesItem_iff, Value.coerce_of_scalar actual rfl]
  constructor
  · rintro ⟨converted, hconverted, hequiv⟩
    have hkind := Value.kind_coerceTo hconverted
    rw [Value.equiv_of_scalar rfl hkind] at hequiv
    cases converted with
    | int k =>
      have hk : i = k := eq_of_beq hequiv
      rw [hk]
      exact hconverted
    | _ => cases hkind
  · intro h
    exact ⟨.int i, h, by rw [Value.equiv_of_scalar rfl rfl]; exact beq_self_eq_true i⟩

theorem equal_float_int_iff (x : Binary64) (i : Int64) :
    equal (.float x) (.int i) = .ok () ↔ (Binary64.ofInt i.toInt).eq x = true := by
  have hequiv : (Value.float x).equiv (.float (Binary64.ofInt i.toInt))
      = x.eq (Binary64.ofInt i.toInt) := @Value.equiv_of_scalar (.float x) (.float _) rfl rfl
  rw [equal_eq_ok_iff, Value.matchesItem_iff, Value.coerce_of_scalar _ rfl, Binary64.eq_comm,
    ← hequiv]
  constructor
  · rintro ⟨converted, hconverted, h⟩
    cases hconverted
    exact h
  · exact fun h => ⟨_, rfl, h⟩

/-- Which number comes out of a coercion. Of a double it is the integer that the double denotes, or
the greatest one for `2 ^ 63`; of an integer it is the nearest double; of a numeral it is the
integer that the numeral is taken for. An integer equals the doubles and numerals that it comes out
of, and a double equals the integers that it comes out of, with or without the coercion. -/
theorem numbers_coerce_to_nearest (i : Int64) (x : Binary64) {s : String} {n : Int}
    (h : Spells s.toList n) :
    ((Value.float x).coerceTo .int = .ok (.int i) ↔
      x.Denotes i.toInt ∨ x.Denotes (2 ^ 63) ∧ i = Int64.maxValue) ∧
    (equal (.int i) (.float x) = .ok () ↔
      x.Denotes i.toInt ∨ x.Denotes (2 ^ 63) ∧ i = Int64.maxValue) ∧
    (∃ (y : Binary64) (q : ℚ), (Value.int i).coerceTo .float = .ok (.float y) ∧ y.Denotes q ∧
      Binary64.IsNearest i.toInt q ∧ (i.toInt.natAbs ≤ 2 ^ 53 → q = i.toInt) ∧
      ((∃ z : Binary64, z.Denotes i.toInt) → q = i.toInt) ∧
      (equal (.float x) (.int i) = .ok () ↔ x.Denotes q) ∧
      ((Value.int i).equiv (.float x) = true ↔ x.Denotes q) ∧
      ((Value.float x).equiv (.int i) = true ↔ x.Denotes q)) ∧
    ((Value.string s).coerceTo .int = .ok (.int i) ↔ IsTakenFor n i) ∧
    (equal (.int i) (.string s) = .ok () ↔ IsTakenFor n i) := by
  have hlow := i.le_toInt
  have hhigh := i.toInt_lt
  obtain ⟨q, hq, hnearest, hsmall⟩ :=
    Binary64.exists_denotes_ofInt (show i.toInt.natAbs < 2 ^ 64 by omega)
  have heq := Binary64.eq_iff_denotes hq x
  refine ⟨Value.coerceTo_int_of_float_iff x i, ?_,
    ⟨_, q, rfl, hq, hnearest, hsmall, ?_, ?_, ?_, ?_⟩, Value.coerceTo_int_of_spells_iff h i, ?_⟩
  · rw [equal_int_iff, Value.coerceTo_int_of_float_iff]
  · rintro ⟨z, hz⟩
    exact hnearest.eq_of_denotes hz
  · rw [equal_float_int_iff, heq]
  · rw [Value.equiv]
    exact heq
  · rw [Value.equiv]
    exact heq
  · rw [equal_int_iff, Value.coerceTo_int_of_spells_iff h]

theorem spells_bound : Spells "+9223372036854775808 ".toList (2 ^ 63) := by
  have hdigits : Number.IsDigits "9223372036854775808".toList :=
    ⟨by decide +kernel, List.all_eq_true.1 (by decide +kernel)⟩
  have hworth : (Number.digitsWorth "9223372036854775808".toList : Int) = 2 ^ 63 := by
    decide +kernel
  refine ⟨[], '+' :: "9223372036854775808".toList, [' '], by decide +kernel, ?_, nofun,
    List.forall_mem_singleton.2 rfl⟩
  rw [← hworth]
  exact .positive hdigits

/-- The double `2 ^ 63` and the numeral for it, which both become the greatest integer. -/
theorem numbers_coerce_to_nearest_at_bound :
    let x := Binary64.ofInt (2 ^ 63)
    let s := "+9223372036854775808 "
    Spells s.toList (2 ^ 63) ∧
    (Value.float x).coerceTo .int = .ok (.int Int64.maxValue) ∧
    equal (.int Int64.maxValue) (.float x) = .ok () ∧
    (Value.string s).coerceTo .int = .ok (.int Int64.maxValue) := by
  intro x s
  have hx : x.Denotes (2 ^ 63) := by
    have hint : x.toInt? = some (2 ^ 63) := by decide +kernel
    exact_mod_cast Binary64.toInt?_eq_some_iff.1 hint
  obtain ⟨hfloat, hequal, -, hstring, -⟩ := numbers_coerce_to_nearest Int64.maxValue x spells_bound
  exact ⟨spells_bound, hfloat.2 (.inr ⟨hx, rfl⟩), hequal.2 (.inr ⟨hx, rfl⟩),
    hstring.2 (.inr (.inl ⟨by decide, by decide, rfl⟩))⟩

/-- Neither a coercion nor a comparison that comes after it keeps every number: `2 ^ 63` is no
64-bit integer, and `2 ^ 53 + 1` is no double. -/
theorem not_exact_beyond_precision :
    (¬ ∀ (i : Int64) (x : Binary64), (Value.float x).coerceTo .int = .ok (.int i) →
      x.Denotes i.toInt) ∧
    (¬ ∀ (i : Int64) (x : Binary64), (Value.int i).coerceTo .float = .ok (.float x) →
      x.Denotes i.toInt) ∧
    (¬ ∀ (i : Int64) (s : String) (n : Int), Spells s.toList n →
      (Value.string s).coerceTo .int = .ok (.int i) → i.toInt = n) ∧
    (¬ ∀ (i : Int64) (x : Binary64), equal (.int i) (.float x) = .ok () → x.Denotes i.toInt) ∧
    (¬ ∀ (i : Int64) (x : Binary64), equal (.float x) (.int i) = .ok () → x.Denotes i.toInt) ∧
    (¬ ∀ (i : Int64) (x : Binary64), (Value.int i).equiv (.float x) = true → x.Denotes i.toInt) ∧
    (¬ ∀ (i : Int64) (s : String) (n : Int), Spells s.toList n →
      equal (.int i) (.string s) = .ok () → i.toInt = n) := by
  have hbound : (Value.float (Binary64.ofInt (2 ^ 63))).coerceTo .int
      = .ok (.int Int64.maxValue) := by
    decide +kernel
  have hboundText : (Value.string "+9223372036854775808 ").coerceTo .int
      = .ok (.int Int64.maxValue) := by
    decide +kernel
  have hoff : ¬ (Binary64.ofInt (2 ^ 63)).Denotes Int64.maxValue.toInt := by
    rw [← Binary64.toInt?_eq_some_iff]
    decide +kernel
  have hodd : ¬ (Binary64.ofInt (2 ^ 53 + 1)).Denotes (Int64.ofInt (2 ^ 53 + 1)).toInt := by
    rw [← Binary64.toInt?_eq_some_iff]
    decide +kernel
  have hself : (Binary64.ofInt (2 ^ 53 + 1)).eq (Binary64.ofInt (2 ^ 53 + 1)) = true := by
    decide +kernel
  refine ⟨fun h => hoff (h _ _ hbound), fun h => hodd (h _ _ rfl), fun h => ?_,
    fun h => hoff (h _ _ ((equal_int_iff _ _).2 hbound)),
    fun h => hodd (h _ _ ((equal_float_int_iff _ _).2 hself)), fun h => hodd (h _ _ ?_),
    fun h => ?_⟩
  · exact absurd (h _ _ _ spells_bound hboundText) (by decide)
  · rw [Value.equiv]
    exact hself
  · exact absurd (h _ _ _ spells_bound ((equal_int_iff _ _).2 hboundText)) (by decide)

end Check

end HttpTest
