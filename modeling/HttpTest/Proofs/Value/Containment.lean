import HttpTest.Proofs.Value.Acceptance

/-!
# Containment in lists

What a list contains are the values that pass an equality check against one of its items, and the
candidates of a choice are such a list. The one exception is `null`: containment refuses it before
it looks at the items, so it is not found in a list that holds it (`Value.contains_list_iff`).
-/

namespace HttpTest

namespace Value

def EqualsSome (value : Value) (items : List Value) : Prop :=
  ∃ item ∈ items, Check.equal item value = .ok ()

theorem any_matchesItem_iff (value : Value) (items : List Value) :
    (items.any fun item => value.matchesItem item) = true ↔ value.EqualsSome items := by
  rw [List.any_eq_true]
  refine exists_congr fun item => and_congr_right fun _ => ?_
  exact Check.equal_eq_ok_iff.symm

theorem contains_list_of_ne_null {value : Value} (h : value ≠ .null) (items : List Value) :
    (Value.list items).contains value = items.any fun item => value.matchesItem item := by
  cases value with
  | null => exact absurd rfl h
  | _ => rfl

theorem contains_list_iff (items : List Value) (value : Value) :
    (Value.list items).contains value = true ↔ value ≠ .null ∧ value.EqualsSome items := by
  by_cases h : value = .null
  · -- the guard for `null` stands in front of the case for lists
    subst h
    exact ⟨nofun, fun hnull => absurd rfl hnull.1⟩
  · rw [contains_list_of_ne_null h, any_matchesItem_iff, and_iff_right h]

theorem matchesItem_null_iff (item : Value) :
    Value.null.matchesItem item = true ↔ item = .null := by
  cases item with
  | null => exact iff_of_true rfl rfl
  | _ => exact iff_of_false Bool.false_ne_true nofun

theorem equalsSome_null_iff (items : List Value) : Value.null.EqualsSome items ↔ .null ∈ items := by
  rw [← any_matchesItem_iff, List.any_eq_true]
  simp only [matchesItem_null_iff, exists_eq_right]

end Value

namespace Check

theorem contains_eq_ok_iff (haystack needle : Value) :
    contains haystack needle = .ok () ↔ haystack.contains needle = true := by
  unfold contains
  split <;> simp_all

theorem notContains_eq_ok_iff (haystack needle : Value) :
    notContains haystack needle = .ok () ↔ haystack.contains needle = false := by
  unfold notContains
  split <;> simp_all

/-- A list contains exactly the values other than `null` that equal one of its items, and so do the
checks of containment and of being among some candidates say. -/
theorem containment_iff_equal (items : List Value) (value : Value) :
    ((Value.list items).contains value = true ↔ value ≠ .null ∧ value.EqualsSome items) ∧
    (Value.oneOf items value = true ↔ value ≠ .null ∧ value.EqualsSome items) ∧
    (contains (.list items) value = .ok () ↔ value ≠ .null ∧ value.EqualsSome items) ∧
    (oneOf items value = .ok () ↔ value ≠ .null ∧ value.EqualsSome items) ∧
    (notContains (.list items) value = .ok () ↔ ¬ (value ≠ .null ∧ value.EqualsSome items)) ∧
    (notOneOf items value = .ok () ↔ ¬ (value ≠ .null ∧ value.EqualsSome items)) ∧
    (∀ item ∈ items, item ≠ .null → equal item item = .ok () →
      contains (.list items) item = .ok ()) ∧
    (Value.null.EqualsSome items ↔ .null ∈ items) := by
  have hfound := Value.contains_list_iff items value
  have hmissing : (Value.list items).contains value = false ↔
      ¬ (value ≠ .null ∧ value.EqualsSome items) := by
    rw [← hfound, Bool.not_eq_true]
  have hpasses := (contains_eq_ok_iff (.list items) value).trans hfound
  have hrefused := (notContains_eq_ok_iff (.list items) value).trans hmissing
  refine ⟨hfound, hfound, hpasses, hpasses, hrefused, hrefused, ?_, Value.equalsSome_null_iff items⟩
  intro item hitem hnull hequal
  rw [contains_eq_ok_iff, Value.contains_list_iff]
  exact ⟨hnull, item, hitem, hequal⟩

/-- Where `null` is an item of a list it equals one, and is not contained for all that. -/
theorem not_contains_null_of_mem :
    ¬ ∀ (items : List Value) (value : Value),
      ((Value.list items).contains value = true ↔ value.EqualsSome items) ∧
      (Value.oneOf items value = true ↔ value.EqualsSome items) := by
  intro h
  have hequal : Value.null.EqualsSome [.null] :=
    (Value.equalsSome_null_iff _).2 List.mem_cons_self
  have hcontains : (Value.list [.null]).contains .null = true := (h [.null] .null).1.2 hequal
  cases hcontains

end Check

end HttpTest
