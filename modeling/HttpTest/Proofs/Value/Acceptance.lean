import HttpTest.Proofs.Value.Alignment
import HttpTest.Proofs.Value.Coercion

/-!
# Acceptance

An equality check coerces the actual value into the shape of the expected one and then compares the
two, in two recursions of which neither alone says what passes: coercion leaves alone what has no
template, and comparison looks for the expected entries only. `Value.accepts` says it in one
recursion on the expected value, and `Check.equal_iff_accepts` shows that nothing else passes.
-/

namespace HttpTest

namespace Value

open Dictionary (SameKeys)

mutual

/-- Whether an actual value meets an expected one: a scalar can be coerced to an equal one, a
composite value has the same names or positions and meets each part. -/
def accepts : (expected actual : Value) → Bool
  | .list templates, .list items => acceptsItems templates items
  | .map templates, .map entries | .map templates, .record _ entries
  | .record _ templates, .map entries =>
      decide (SameKeys templates entries) && acceptsEntries templates entries
  | .record name templates, .record other entries =>
      name == other && (decide (SameKeys templates entries) && acceptsEntries templates entries)
  | .list _, _ | .map _, _ | .record .., _ => false
  | expected, actual =>
      match actual.coerceTo expected.kind with
      | .ok converted => converted == expected
      | .error _ => false

def acceptsItems : (expected actual : List Value) → Bool
  | [], [] => true
  | template :: templates, item :: items =>
      accepts template item && acceptsItems templates items
  | _, _ => false

def acceptsEntries : (expected actual : List (String × Value)) → Bool
  | [], _ => true
  | (key, template) :: templates, entries =>
      (match Dictionary.find? key entries with
        | some value => accepts template value
        | none => false) && acceptsEntries templates entries

end

theorem accepts_of_scalar {expected : Value} (h : expected.kind.isComposite = false)
    (actual : Value) : expected.accepts actual =
      match actual.coerceTo expected.kind with
      | .ok converted => converted == expected
      | .error _ => false := by
  rw [accepts]
  all_goals
    intros
    subst_vars
    cases h

theorem acceptsEntries_iff {templates entries : List (String × Value)} :
    acceptsEntries templates entries = true ↔
      ∀ entry ∈ templates, ∃ value, Dictionary.find? entry.1 entries = some value ∧
        entry.2.accepts value = true := by
  induction templates with
  | nil => simp [acceptsEntries]
  | cons entry rest ih =>
    obtain ⟨key, template⟩ := entry
    rw [acceptsEntries, Bool.and_eq_true, ih, List.forall_mem_cons]
    cases Dictionary.find? key entries <;> simp

/-! ### What passes, shape by shape -/

theorem matchesItem_iff {actual expected : Value} : actual.matchesItem expected = true ↔
    ∃ converted, actual.coerce expected = .ok converted ∧ expected.equiv converted = true := by
  unfold matchesItem
  cases actual.coerce expected <;> simp

theorem matchesItem_of_scalar {expected : Value} (h : expected.kind.isComposite = false)
    (actual : Value) : actual.matchesItem expected = expected.accepts actual := by
  rw [accepts_of_scalar h, matchesItem, coerce_of_scalar actual h]
  cases hc : actual.coerceTo expected.kind with
  | error e => rfl
  | ok converted =>
    show expected.equiv converted = (converted == expected)
    rw [equiv_of_scalar h (kind_coerceTo hc)]
    exact same_comm expected converted

/-- The items can be coerced to the templates, are as many as those, and are then equivalent to
them one by one. -/
def ItemsMatch (items templates : List Value) : Prop :=
  ∃ converted, coerceItems items templates = .ok converted ∧
    templates.length = converted.length ∧ equivItems templates converted = true

theorem matchesItem_list (items templates : List Value) :
    (Value.list items).matchesItem (.list templates) = true ↔ ItemsMatch items templates := by
  rw [matchesItem, coerce, ItemsMatch]
  cases h : coerceItems items templates with
  | error e => simp
  | ok converted =>
    show equiv (.list templates) (.list converted) = true ↔ _
    rw [equiv, Bool.and_eq_true, beq_iff_eq]
    simp

/-- The entries can be coerced to the templates, are as many as those, and then contain an
equivalent one for each. -/
def EntriesMatch (entries templates : List (String × Value)) : Prop :=
  ∃ converted, coerceEntries entries templates = .ok converted ∧
    templates.length = converted.length ∧ equivEntries templates converted = true

theorem not_entriesMatch_of_error {entries templates : List (String × Value)} {e : CoercionError}
    (h : coerceEntries entries templates = .error e) : ¬ EntriesMatch entries templates := by
  rintro ⟨converted, hc, -⟩
  rw [h] at hc
  cases hc

theorem entriesMatch_of_ok {entries templates converted : List (String × Value)}
    (h : coerceEntries entries templates = .ok converted) : EntriesMatch entries templates ↔
      templates.length = converted.length ∧ equivEntries templates converted = true := by
  constructor
  · rintro ⟨other, hc, hm⟩
    rw [h] at hc
    cases hc
    exact hm
  · exact fun hm => ⟨converted, h, hm⟩

theorem matchesItem_map_map (entries templates : List (String × Value)) :
    (Value.map entries).matchesItem (.map templates) = true ↔ EntriesMatch entries templates := by
  rw [matchesItem, coerce]
  cases h : coerceEntries entries templates with
  | error e => simp [not_entriesMatch_of_error h]
  | ok converted =>
    show equiv (.map templates) (.map converted) = true ↔ _
    rw [equiv, Bool.and_eq_true, beq_iff_eq, entriesMatch_of_ok h]

theorem matchesItem_map_record (name : String) (entries templates : List (String × Value)) :
    (Value.map entries).matchesItem (.record name templates) = true ↔
      EntriesMatch entries templates := by
  rw [matchesItem, coerce]
  cases h : coerceEntries entries templates with
  | error e => simp [not_entriesMatch_of_error h]
  | ok converted =>
    show equiv (.record name templates) (.record name converted) = true ↔ _
    rw [equiv, Bool.and_eq_true, Bool.and_eq_true, beq_iff_eq, beq_iff_eq, entriesMatch_of_ok h]
    simp

theorem matchesItem_record_record (name other : String)
    (entries templates : List (String × Value)) :
    (Value.record other entries).matchesItem (.record name templates) = true ↔
      name = other ∧ EntriesMatch entries templates := by
  rw [matchesItem, coerce]
  cases h : coerceEntries entries templates with
  | error e => simp [not_entriesMatch_of_error h]
  | ok converted =>
    show equiv (.record name templates) (.record other converted) = true ↔ _
    rw [equiv, Bool.and_eq_true, Bool.and_eq_true, beq_iff_eq, beq_iff_eq, entriesMatch_of_ok h,
      and_assoc]

theorem matchesItem_record_map (name : String) {entries : List (String × Value)}
    (templates : List (String × Value)) (hn : (Dictionary.keys entries).Nodup) :
    (Value.record name entries).matchesItem (.map templates) = true ↔
      EntriesMatch entries templates := by
  rw [matchesItem, coerce]
  cases h : coerceEntries entries templates with
  | error e => simp [not_entriesMatch_of_error h]
  | ok converted =>
    show equiv (.map templates) (.map (Dictionary.ofList converted)) = true ↔ _
    -- the dictionary holds the same entries in another order
    have hn' : (Dictionary.keys converted).Nodup := by
      rw [keys_coerceEntries h]
      exact hn
    have hp := Dictionary.perm_ofList hn'
    have hfind : ∀ key, Dictionary.find? key (Dictionary.ofList converted) =
        Dictionary.find? key converted := fun key =>
      (Dictionary.find?_eq_of_perm hn' hp.symm key).symm
    rw [equiv, Bool.and_eq_true, beq_iff_eq, entriesMatch_of_ok h, hp.length_eq, equivEntries_iff,
      equivEntries_iff]
    simp only [hfind]

/-! ### Coercion and comparison in one recursion -/

theorem itemsMatch_iff_acceptsItems {items templates : List Value}
    (ih : ∀ template ∈ templates, ∀ item ∈ items,
      item.matchesItem template = template.accepts item) :
    ItemsMatch items templates ↔ acceptsItems templates items = true := by
  induction templates generalizing items with
  | nil =>
    cases items with
    | nil => simp [ItemsMatch, coerceItems, equivItems, acceptsItems]
    | cons item items => simp [ItemsMatch, coerceItems, acceptsItems]
  | cons template templates ihs =>
    cases items with
    | nil => simp [ItemsMatch, coerceItems, acceptsItems]
    | cons item items =>
      -- the first items match and so do the others, as far as both can be coerced
      have hhead := ih template List.mem_cons_self item List.mem_cons_self
      have htail : ItemsMatch items templates ↔ acceptsItems templates items = true :=
        ihs fun t ht i hi => ih t (List.mem_cons_of_mem _ ht) i (List.mem_cons_of_mem _ hi)
      rw [acceptsItems, Bool.and_eq_true, ← hhead, ← htail, ItemsMatch, ItemsMatch, coerceItems,
        matchesItem]
      cases item.coerce template with
      | error e => simp
      | ok item' =>
        cases coerceItems items templates with
        | error e => simp
        | ok items' => simp [equivItems, and_left_comm]

theorem entriesMatch_iff_acceptsEntries {entries templates : List (String × Value)}
    (ht : (Dictionary.keys templates).Nodup) (hn : (Dictionary.keys entries).Nodup)
    (ih : ∀ template ∈ templates, ∀ entry ∈ entries,
      entry.2.matchesItem template.2 = template.2.accepts entry.2) :
    EntriesMatch entries templates ↔
      SameKeys templates entries ∧ acceptsEntries templates entries = true := by
  rw [acceptsEntries_iff]
  constructor
  · rintro ⟨converted, hc, hl, he⟩
    rw [equivEntries_iff] at he
    have hkeys := keys_coerceEntries hc
    -- comparison checks this inclusion and the count; that none is left over follows from both
    have hsub : Dictionary.keys templates ⊆ Dictionary.keys entries := by
      intro key hk
      obtain ⟨template, hm, rfl⟩ := List.mem_map.1 hk
      obtain ⟨other, hf, -⟩ := he template hm
      rw [← hkeys]
      exact Dictionary.mem_keys_of_find? hf
    have hlen : templates.length = entries.length := by
      rw [hl, ← Dictionary.length_keys converted, hkeys, Dictionary.length_keys]
    refine ⟨Dictionary.sameKeys_of_length_eq ht hsub hlen, ?_⟩
    intro (key, template) hm
    obtain ⟨converted', hf, heq⟩ := he _ hm
    obtain ⟨value, hv⟩ :=
      Dictionary.exists_find?_of_mem_keys (hsub (Dictionary.mem_keys_of_mem hm))
    refine ⟨value, hv, ?_⟩
    rw [← ih _ hm _ (Dictionary.mem_of_find?_eq_some hv), matchesItem_iff]
    obtain ⟨value', hco, hf'⟩ := find?_coerceEntries hc hv
    rw [Dictionary.find?_eq_some_of_mem ht hm] at hco
    cases hf.symm.trans hf'
    exact ⟨converted', hco, heq⟩
  · rintro ⟨hs, ha⟩
    have hpart : ∀ {key value template}, (key, template) ∈ templates →
        Dictionary.find? key entries = some value →
        ∃ value', value.coerce template = .ok value' ∧ template.equiv value' = true := by
      intro key value template hm hv
      obtain ⟨value₁, hv₁, hacc⟩ := ha _ hm
      cases hv.symm.trans hv₁
      rw [← ih _ hm _ (Dictionary.mem_of_find?_eq_some hv), matchesItem_iff] at hacc
      exact hacc
    obtain ⟨converted, hc⟩ : ∃ converted, coerceEntries entries templates = .ok converted := by
      apply exists_coerceEntries
      intro (key, value) hm
      cases hf : Dictionary.find? key templates with
      | none => exact ⟨value, rfl⟩
      | some template =>
        obtain ⟨value', hv, -⟩ := hpart (Dictionary.mem_of_find?_eq_some hf)
          (Dictionary.find?_eq_some_of_mem hn hm)
        exact ⟨value', hv⟩
    refine ⟨converted, hc, ?_, equivEntries_iff.2 ?_⟩
    · rw [hs.length_eq ht hn, ← Dictionary.length_keys, ← keys_coerceEntries hc,
        Dictionary.length_keys]
    · intro (key, template) hm
      obtain ⟨value, hv, -⟩ := ha _ hm
      obtain ⟨value', hco, heq⟩ := hpart hm hv
      obtain ⟨other, hco', hf⟩ := find?_coerceEntries hc hv
      rw [Dictionary.find?_eq_some_of_mem ht hm] at hco'
      cases hco.symm.trans hco'
      exact ⟨value', hf, heq⟩

theorem entriesMatch_iff_of_regular {expected actual : Value}
    {entries templates : List (String × Value)} (he : expected.Regular) (ha : actual.Regular)
    (ht : expected.entries? = some templates) (hn : actual.entries? = some entries)
    (ih : ∀ template ∈ templates, ∀ {actual : Value}, template.2.Regular → actual.Regular →
      actual.matchesItem template.2 = template.2.accepts actual) :
    EntriesMatch entries templates ↔
      SameKeys templates entries ∧ acceptsEntries templates entries = true := by
  obtain ⟨htn, htr⟩ := he.of_entries? ht
  obtain ⟨hnn, hnr⟩ := ha.of_entries? hn
  apply entriesMatch_iff_acceptsEntries htn hnn
  intro template hmt entry hme
  exact ih template hmt (htr template hmt) (hnr entry hme)

/-- On values whose names stand for one entry each, coercing and comparing is acceptance. -/
theorem matchesItem_eq_accepts {expected actual : Value} (he : expected.Regular)
    (ha : actual.Regular) : actual.matchesItem expected = expected.accepts actual := by
  induction expected using Value.induction generalizing actual with
  | scalar expected hs => exact matchesItem_of_scalar hs actual
  | list templates ih =>
    cases actual with
    | list items =>
      rw [Bool.eq_iff_iff, matchesItem_list, accepts]
      apply itemsMatch_iff_acceptsItems
      intro template ht item hi
      exact ih template ht (he.of_mem_items ht) (ha.of_mem_items hi)
    | _ => rfl
  | map templates ih =>
    rw [Bool.eq_iff_iff]
    cases actual with
    | map entries =>
      rw [matchesItem_map_map, accepts, Bool.and_eq_true, decide_eq_true_eq]
      exact entriesMatch_iff_of_regular he ha rfl rfl ih
    -- the fields become entries, and each name keeps its one field
    | record other entries =>
      rw [matchesItem_record_map _ _ (ha.of_entries? rfl).1, accepts, Bool.and_eq_true,
        decide_eq_true_eq]
      exact entriesMatch_iff_of_regular he ha rfl rfl ih
    | _ => rfl
  | record name templates ih =>
    rw [Bool.eq_iff_iff]
    cases actual with
    | map entries =>
      rw [matchesItem_map_record, accepts, Bool.and_eq_true, decide_eq_true_eq]
      exact entriesMatch_iff_of_regular he ha rfl rfl ih
    | record other entries =>
      rw [matchesItem_record_record, accepts, Bool.and_eq_true, Bool.and_eq_true, beq_iff_eq,
        decide_eq_true_eq]
      exact and_congr_right fun _ => entriesMatch_iff_of_regular he ha rfl rfl ih
    | _ => rfl

/-! ### Parts of an accepted value -/

theorem length_eq_of_acceptsItems {items templates : List Value}
    (h : acceptsItems templates items = true) : items.length = templates.length := by
  induction templates generalizing items with
  | nil =>
    cases items with
    | nil => rfl
    | cons item items => cases h
  | cons template templates ih =>
    cases items with
    | nil => cases h
    | cons item items =>
      rw [acceptsItems, Bool.and_eq_true] at h
      rw [List.length_cons, List.length_cons, ih h.2]

theorem exists_entries_of_accepts {value template : Value} {templates : List (String × Value)}
    (h : template.accepts value = true) (ht : template.entries? = some templates) :
    ∃ entries, value.entries? = some entries := by
  rcases eq_map_or_record_of_entries? ht with rfl | ⟨name, rfl⟩ <;> cases value
  all_goals first
    | exact ⟨_, rfl⟩
    | cases h

theorem acceptsEntries_of_accepts {value template : Value}
    {entries templates : List (String × Value)} (h : template.accepts value = true)
    (hv : value.entries? = some entries) (ht : template.entries? = some templates) :
    SameKeys templates entries ∧ acceptsEntries templates entries = true := by
  rcases eq_map_or_record_of_entries? hv with rfl | ⟨other, rfl⟩ <;>
    rcases eq_map_or_record_of_entries? ht with rfl | ⟨name, rfl⟩
  all_goals
    rw [accepts] at h
    simp only [Bool.and_eq_true, decide_eq_true_eq] at h
  · exact h
  · exact h
  · exact h
  · exact h.2

theorem sameExtent_of_accepts {value template : Value} (h : template.accepts value = true) :
    SameExtent value template where
  length_eq hv ht := by
    subst hv ht
    exact length_eq_of_acceptsItems h
  sameKeys hv ht := (acceptsEntries_of_accepts h hv ht).1.symm

/-- Every part of an accepted value is accepted by the part of the template at its place. -/
def PartsAccepted (template : Value) : Prop :=
  ∀ value : Value, value.Regular → template.accepts value = true →
    ∀ pair ∈ value.aligned template, pair.2.accepts pair.1 = true

theorem accepts_of_mem_alignedItems {items templates : List Value}
    (hi : ∀ item ∈ items, item.Regular) (ih : ∀ template ∈ templates, template.PartsAccepted)
    (h : acceptsItems templates items = true) :
    ∀ pair ∈ alignedItems items templates, pair.2.accepts pair.1 = true := by
  induction templates generalizing items with
  | nil =>
    cases items with
    | nil => exact List.forall_mem_nil _
    | cons item items => cases h
  | cons template templates ihs =>
    cases items with
    | nil => cases h
    | cons item items =>
      obtain ⟨hitem, hitems⟩ := List.forall_mem_cons.1 hi
      obtain ⟨hhead, htail⟩ := List.forall_mem_cons.1 ih
      rw [acceptsItems, Bool.and_eq_true] at h
      rw [alignedItems, List.forall_mem_append]
      exact ⟨hhead item hitem h.1, ihs hitems htail h.2⟩

theorem accepts_of_mem_alignedEntries {value : Value}
    {entries templates : List (String × Value)} (hr : value.Regular)
    (hv : value.entries? = some entries) (ih : ∀ template ∈ templates, template.2.PartsAccepted)
    (h : acceptsEntries templates entries = true) :
    ∀ pair ∈ alignedEntries entries templates, pair.2.accepts pair.1 = true := by
  obtain ⟨hn, hentries⟩ := hr.of_entries? hv
  rw [acceptsEntries_iff] at h
  rw [forall_mem_alignedEntries]
  intro entry hm template hf pair hpair
  have hmt := Dictionary.mem_of_find?_eq_some hf
  -- the entry that acceptance looked up is this one, since no name is repeated
  obtain ⟨found, hfound, hacc⟩ := h _ hmt
  rw [Dictionary.find?_eq_some_of_mem hn hm] at hfound
  cases hfound
  exact ih _ hmt entry.2 (hentries entry hm) hacc pair hpair

theorem partsAccepted_of_entries? {template : Value} {templates : List (String × Value)}
    (ht : template.entries? = some templates)
    (ih : ∀ entry ∈ templates, entry.2.PartsAccepted) : template.PartsAccepted := by
  intro value hr h
  obtain ⟨entries, hv⟩ := exists_entries_of_accepts h ht
  rw [aligned_of_entries? hv ht, List.forall_mem_cons]
  exact ⟨h, accepts_of_mem_alignedEntries hr hv ih (acceptsEntries_of_accepts h hv ht).2⟩

theorem partsAccepted (template : Value) : template.PartsAccepted := by
  induction template using Value.induction with
  | scalar template hs =>
    intro value _ h
    rw [aligned_of_scalar value hs, List.forall_mem_singleton]
    exact h
  | list templates ih =>
    intro value hr h
    cases value with
    | list items =>
      rw [aligned, List.forall_mem_cons]
      exact ⟨h, accepts_of_mem_alignedItems (fun _ hi => hr.of_mem_items hi) ih h⟩
    | _ => cases h
  | map templates ih => exact partsAccepted_of_entries? rfl ih
  | record name templates ih => exact partsAccepted_of_entries? rfl ih

end Value

namespace Check

theorem equal_eq_ok_iff {expected actual : Value} :
    equal expected actual = .ok () ↔ actual.matchesItem expected = true := by
  unfold equal Value.matchesItem
  cases actual.coerce expected with
  | error e => simp
  | ok converted =>
    show (if expected.equiv converted then _ else _) = _ ↔ expected.equiv converted = true
    split <;> simp [*]

/-- An equality check passes exactly on what the expected value accepts. So it fails whenever at
some place, however deep, there are too many or too few items, keys or fields. -/
theorem equal_iff_accepts {expected actual : Value} (he : expected.Regular)
    (ha : actual.Regular) :
    (equal expected actual = .ok () ↔ expected.accepts actual = true) ∧
      ∀ pair ∈ actual.aligned expected, ¬ pair.1.SameExtent pair.2 →
        equal expected actual ≠ .ok () := by
  have hiff : equal expected actual = .ok () ↔ expected.accepts actual = true := by
    rw [equal_eq_ok_iff, Value.matchesItem_eq_accepts he ha]
  refine ⟨hiff, ?_⟩
  intro pair hp hne hok
  have hacc := expected.partsAccepted actual ha (hiff.1 hok) pair hp
  exact hne (Value.sameExtent_of_accepts hacc)

/-- A record with a list in it, met by a map and, one level down, missed by a key too many. -/
theorem equal_record_of_map :
    let expected := Value.record "Order" [("id", .int 3), ("lines", .list [.map [("sku", .null)]])]
    let order (line : Value) := Value.map [("id", .string "3"), ("lines", .list [line])]
    equal expected (order (.record "Line" [("sku", .null)])) = .ok () ∧
      equal expected (order (.map [("qty", .int 1), ("sku", .null)])) ≠ .ok () := by
  intro expected order
  constructor
  · exact (equal_iff_accepts (by decide) (by decide)).1.2 (by decide)
  · refine (equal_iff_accepts (by decide) (by decide)).2
      (.map [("qty", .int 1), ("sku", .null)], .map [("sku", .null)]) ?_ ?_
    · exact List.mem_of_getElem? (i := 3) rfl
    · intro h
      exact absurd (h.sameKeys rfl rfl) (by decide)

end Check

end HttpTest
