import Mathlib.Data.Nat.Digits.Defs

/-!
# The digits of a number

What holds of each digit character holds of all the digits of a number, and up to base sixteen the
digits say which number it is.
-/

namespace HttpTest.Text

theorem forall_mem_toDigits {P : Char → Prop} (h : ∀ d : Nat, P d.digitChar) {base : Nat}
    (hbase : 1 < base) (n : Nat) : ∀ c ∈ Nat.toDigits base n, P c := by
  induction n using Nat.strongRecOn with
  | ind n ih =>
    rw [Nat.toDigits_eq_if hbase]
    split
    · exact List.forall_mem_singleton.2 (h n)
    · rename_i hn
      have hless : n / base < n := Nat.div_lt_self (by omega) hbase
      exact List.forall_mem_append.2 ⟨ih _ hless, List.forall_mem_singleton.2 (h _)⟩

/-- From sixteen on all digits are the same character. -/
theorem digitChar_inj {m n : Nat} (hm : m < 16) (hn : n < 16) (h : m.digitChar = n.digitChar) :
    m = n := by
  have hall : ∀ i j : Fin 16, i.val.digitChar = j.val.digitChar → i = j := by decide
  exact congrArg Fin.val (hall ⟨m, hm⟩ ⟨n, hn⟩ h)

theorem toDigits_inj {base : Nat} (hbase : 1 < base) (hsixteen : base ≤ 16) {m n : Nat}
    (h : Nat.toDigits base m = Nat.toDigits base n) : m = n := by
  -- one digit is not one that has others before it
  have hone : ∀ (c d : Char) (k : Nat), [c] ≠ Nat.toDigits base k ++ [d] := by
    intro c d k heq
    have hnil : [] ++ [c] = Nat.toDigits base k ++ [d] := heq
    exact Nat.toDigits_ne_nil (List.append_inj' hnil rfl).1.symm
  induction m using Nat.strongRecOn generalizing n with
  | ind m ih =>
    rcases Nat.lt_or_ge m base with hm | hm <;> rcases Nat.lt_or_ge n base with hn | hn
    · rw [Nat.toDigits_of_lt_base hm, Nat.toDigits_of_lt_base hn] at h
      exact digitChar_inj (by omega) (by omega) (List.cons.inj h).1
    · rw [Nat.toDigits_of_lt_base hm, Nat.toDigits_of_base_le hbase hn] at h
      exact absurd h (hone _ _ _)
    · rw [Nat.toDigits_of_base_le hbase hm, Nat.toDigits_of_lt_base hn] at h
      exact absurd h.symm (hone _ _ _)
    · rw [Nat.toDigits_of_base_le hbase hm, Nat.toDigits_of_base_le hbase hn] at h
      obtain ⟨hbefore, hlast⟩ := List.append_inj' h rfl
      have hdiv := ih (m / base) (Nat.div_lt_self (by omega) hbase) hbefore
      have hmodm : m % base < base := Nat.mod_lt _ (by omega)
      have hmodn : n % base < base := Nat.mod_lt _ (by omega)
      have hmod := digitChar_inj (by omega) (by omega) (List.cons.inj hlast).1
      rw [← Nat.div_add_mod m base, ← Nat.div_add_mod n base, hdiv, hmod]

end HttpTest.Text
