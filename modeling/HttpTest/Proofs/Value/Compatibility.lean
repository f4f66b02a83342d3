import HttpTest.Proofs.Value.Alignment
import HttpTest.Proofs.Value.Coercion

/-!
# What can be coerced

Coercion goes down a value and its template side by side. Whether it gets through is decided pair by
pair: each part must be able to take the outermost shape of the part of the template at its place.
The first pair for which this fails, in the order in which the value is written, is the one that is
reported (`coerce_stops_at_first_incompatible`).
-/

namespace HttpTest

namespace Value

/-- Whether a part of a value can take the shape of the part of the template at its place, what is
below the two left aside. -/
def compatible (value : Value) : (template : Value) → Bool
  | .list _ => value.kind = .list
  | .map _ | .record .. => value.kind = .map ∨ value.kind = .record
  | template => (value.coerceTo template.kind).isOk

def firstIncompatible? (pairs : List (Value × Value)) : Option (Value × Value) :=
  pairs.find? fun pair => !pair.1.compatible pair.2

/-- A coercion reports the pair at which it stops, and succeeds if there is none. -/
def StopsAt {α : Type} (stop? : Option (Value × Value)) (result : Except CoercionError α) : Prop :=
  match stop? with
  | some pair => result = .error ⟨pair.1, pair.2.kind⟩
  | none => ∃ converted, result = .ok converted

/-! ### One pair -/

theorem compatible_of_scalar (value : Value) {template : Value}
    (h : template.kind.isComposite = false) :
    value.compatible template = (value.coerceTo template.kind).isOk := by
  cases template with
  | list templates => cases h
  | map templates => cases h
  | record name templates => cases h
  | _ => rfl

theorem coerceTo_eq_error {value : Value} {target : Kind}
    (h : (value.coerceTo target).isOk = false) : value.coerceTo target = .error ⟨value, target⟩ := by
  unfold coerceTo at h ⊢
  by_cases hk : value.kind = target
  · rw [if_pos hk] at h
    cases h
  · rw [if_neg hk] at h ⊢
    cases hs : value.scalarAs? target with
    | none => rfl
    | some converted =>
      rw [hs] at h
      cases h

/-- A pair that does not fit is where coercion ends, and it goes no deeper. -/
theorem coerce_of_not_compatible {value template : Value}
    (h : value.compatible template = false) :
    value.coerce template = .error ⟨value, template.kind⟩ ∧
      value.aligned template = [(value, template)] := by
  cases hs : template.kind.isComposite with
  | false =>
    rw [coerce_of_scalar value hs, aligned_of_scalar value hs]
    rw [compatible_of_scalar value hs] at h
    exact ⟨coerceTo_eq_error h, rfl⟩
  | true =>
    -- a composite shape is reached from itself only, and a record and a map from each other
    cases template <;> cases hs <;> cases value <;> first
      | exact ⟨rfl, rfl⟩
      | cases h

theorem kind_ne_of_not_compatible {value template : Value}
    (h : value.compatible template = false) : value.kind ≠ template.kind := by
  intro hk
  cases hs : template.kind.isComposite with
  | false =>
    rw [compatible_of_scalar value hs, coerceTo, if_pos hk] at h
    cases h
  | true => cases template <;> cases hs <;> simp_all [compatible, kind]

theorem exists_entries_of_compatible {value template : Value} {templates : List (String × Value)}
    (ht : template.entries? = some templates) (h : value.compatible template = true) :
    ∃ entries, value.entries? = some entries := by
  rcases eq_map_or_record_of_entries? ht with rfl | ⟨name, rfl⟩ <;> cases value <;> first
    | exact ⟨_, rfl⟩
    | cases h

theorem stopsAt_of_not_compatible {value template : Value}
    (h : value.compatible template = false) :
    StopsAt (firstIncompatible? (value.aligned template)) (value.coerce template) := by
  obtain ⟨hcoerce, haligned⟩ := coerce_of_not_compatible h
  have hfirst : firstIncompatible? [(value, template)] = some (value, template) := by
    apply List.find?_cons_of_pos
    simp [h]
  rw [haligned, hfirst, hcoerce]
  rfl

/-! ### One pair after the other -/

/-- What fails as another coercion does and succeeds where it does stops where it stops. -/
theorem StopsAt.of_follows {α β : Type} {stop? : Option (Value × Value)}
    {result : Except CoercionError α} {whole : Except CoercionError β} (h : StopsAt stop? result)
    (herror : ∀ e, result = .error e → whole = .error e)
    (hok : ∀ a, result = .ok a → ∃ b, whole = .ok b) : StopsAt stop? whole := by
  cases stop? with
  | some pair => exact herror _ h
  | none =>
    obtain ⟨a, ha⟩ := h
    exact hok a ha

/-- Of two coercions in a row the second is looked at only if the first succeeds. -/
theorem StopsAt.or {α β : Type} {first? second? : Option (Value × Value)}
    {first : Except CoercionError α} {whole : Except CoercionError β} (h : StopsAt first? first)
    (herror : ∀ e, first = .error e → whole = .error e)
    (hok : ∀ a, first = .ok a → StopsAt second? whole) : StopsAt (first?.or second?) whole := by
  cases first? with
  | some pair => exact herror _ h
  | none =>
    obtain ⟨a, ha⟩ := h
    exact hok a ha

theorem firstIncompatible?_append (first second : List (Value × Value)) :
    firstIncompatible? (first ++ second) =
      (firstIncompatible? first).or (firstIncompatible? second) :=
  List.find?_append

theorem firstIncompatible?_cons {value template : Value}
    (h : value.compatible template = true) (rest : List (Value × Value)) :
    firstIncompatible? ((value, template) :: rest) = firstIncompatible? rest := by
  apply List.find?_cons_of_neg
  simp [h]

/-- Coercion to a template stops at the first pair that does not fit, whatever is coerced. -/
def StopsInOrder (template : Value) : Prop :=
  ∀ value : Value, StopsAt (firstIncompatible? (value.aligned template)) (value.coerce template)

theorem stopsAt_coerceItems {items templates : List Value}
    (ih : ∀ template ∈ templates, template.StopsInOrder) :
    StopsAt (firstIncompatible? (alignedItems items templates)) (coerceItems items templates) := by
  induction templates generalizing items with
  | nil => cases items <;> exact ⟨_, rfl⟩
  | cons template templates ihs =>
    cases items with
    | nil => exact ⟨[], by rw [coerceItems]⟩
    | cons item items =>
      obtain ⟨htemplate, htemplates⟩ := List.forall_mem_cons.1 ih
      rw [alignedItems, firstIncompatible?_append]
      apply (htemplate item).or
      · intro e he
        rw [coerceItems, he]
      · intro item' hitem
        have htail : StopsAt _ (coerceItems items templates) := ihs htemplates
        apply htail.of_follows
        · intro e he
          rw [coerceItems, hitem, he]
        · intro items' hitems
          exact ⟨item' :: items', by rw [coerceItems, hitem, hitems]⟩

theorem stopsAt_coerceEntries {entries templates : List (String × Value)}
    (ih : ∀ entry ∈ templates, entry.2.StopsInOrder) :
    StopsAt (firstIncompatible? (alignedEntries entries templates))
      (coerceEntries entries templates) := by
  induction entries with
  | nil => exact ⟨[], by rw [coerceEntries]⟩
  | cons entry rest ihs =>
    obtain ⟨key, value⟩ := entry
    have hhead : StopsAt (firstIncompatible? (value.alignedAt (Dictionary.find? key templates)))
        (value.coerceAt (Dictionary.find? key templates)) := by
      cases hf : Dictionary.find? key templates with
      | none => exact ⟨value, rfl⟩
      | some template => exact ih _ (Dictionary.mem_of_find?_eq_some hf) value
    rw [alignedEntries_cons, firstIncompatible?_append]
    apply hhead.or
    · intro e he
      rw [coerceEntries_cons, he]
    · intro value' hvalue
      apply ihs.of_follows
      · intro e he
        rw [coerceEntries_cons, hvalue, he]
      · intro rest' hrest
        exact ⟨(key, value') :: rest', by rw [coerceEntries_cons, hvalue, hrest]⟩

theorem stopsInOrder_of_entries? {template : Value} {templates : List (String × Value)}
    (ht : template.entries? = some templates)
    (ih : ∀ entry ∈ templates, entry.2.StopsInOrder) : template.StopsInOrder := by
  intro value
  cases hfits : value.compatible template with
  | false => exact stopsAt_of_not_compatible hfits
  | true =>
    -- the pair itself fits, so that the two have entries and it is these that decide
    obtain ⟨entries, hv⟩ := exists_entries_of_compatible ht hfits
    have hparts : StopsAt _ (coerceEntries entries templates) := stopsAt_coerceEntries ih
    rw [aligned_of_entries? hv ht, firstIncompatible?_cons hfits]
    apply hparts.of_follows
    · intro e he
      rw [coerce_of_entries? hv ht, he]
      rfl
    · intro converted hc
      rw [coerce_of_entries? hv ht, hc]
      exact ⟨_, rfl⟩

theorem stopsInOrder (template : Value) : template.StopsInOrder := by
  induction template using Value.induction with
  | scalar template hs =>
    intro value
    cases hfits : value.compatible template with
    | false => exact stopsAt_of_not_compatible hfits
    | true =>
      rw [aligned_of_scalar value hs, firstIncompatible?_cons hfits, coerce_of_scalar value hs]
      rw [compatible_of_scalar value hs] at hfits
      cases hc : value.coerceTo template.kind with
      | ok converted => exact ⟨converted, rfl⟩
      | error e =>
        rw [hc] at hfits
        cases hfits
  | list templates ih =>
    intro value
    cases hfits : value.compatible (.list templates) with
    | false => exact stopsAt_of_not_compatible hfits
    | true =>
      cases value with
      | list items =>
        have hparts : StopsAt _ (coerceItems items templates) := stopsAt_coerceItems ih
        rw [aligned, firstIncompatible?_cons hfits]
        apply hparts.of_follows
        · intro e he
          rw [coerce, he]
        · intro converted hc
          exact ⟨.list converted, by rw [coerce, hc]⟩
      | _ => cases hfits
  | map templates ih => exact stopsInOrder_of_entries? rfl ih
  | record name templates ih => exact stopsInOrder_of_entries? rfl ih

/-- A value can be coerced exactly if each part is compatible with the part of the template at its
place. Otherwise the first pair that is not, depth first in the order of the value, is reported, and
its part has another shape than the one that was asked for. -/
theorem coerce_stops_at_first_incompatible (value template : Value) :
    ((∃ converted, value.coerce template = .ok converted) ↔
      ∀ pair ∈ value.aligned template, pair.1.compatible pair.2 = true) ∧
    ∀ e : CoercionError, value.coerce template = .error e ↔
      ∃ before part target after, value.aligned template = before ++ (part, target) :: after ∧
        (∀ pair ∈ before, pair.1.compatible pair.2 = true) ∧
        part.compatible target = false ∧
        e.value = part ∧ e.target = target.kind ∧ e.source = part.kind ∧ e.source ≠ e.target := by
  have hstops := template.stopsInOrder value
  have hnone : firstIncompatible? (value.aligned template) = none ↔
      ∀ pair ∈ value.aligned template, pair.1.compatible pair.2 = true := by
    simp [firstIncompatible?]
  have hsome : ∀ part target : Value,
      firstIncompatible? (value.aligned template) = some (part, target) ↔
        part.compatible target = false ∧ ∃ before after,
          value.aligned template = before ++ (part, target) :: after ∧
            ∀ pair ∈ before, pair.1.compatible pair.2 = true := by
    intro part target
    simp [firstIncompatible?, List.find?_eq_some_iff_append]
  constructor
  · rw [← hnone]
    constructor
    · rintro ⟨converted, hok⟩
      cases hfirst : firstIncompatible? (value.aligned template) with
      | none => rfl
      | some pair =>
        rw [hfirst, hok] at hstops
        cases hstops
    · intro hfirst
      rw [hfirst] at hstops
      exact hstops
  · intro e
    constructor
    · intro herror
      cases hfirst : firstIncompatible? (value.aligned template) with
      | none =>
        rw [hfirst, herror] at hstops
        obtain ⟨converted, hok⟩ := hstops
        cases hok
      | some pair =>
        obtain ⟨part, target⟩ := pair
        rw [hfirst, herror] at hstops
        cases hstops
        obtain ⟨hpart, before, after, hsplit, hbefore⟩ := (hsome part target).1 hfirst
        exact ⟨before, part, target, after, hsplit, hbefore, hpart, rfl, rfl, rfl,
          kind_ne_of_not_compatible hpart⟩
    · -- an error holds the value and the kind that was asked for, and nothing else
      rintro ⟨before, part, target, after, hsplit, hbefore, hpart, rfl, htarget, -, -⟩
      have hfirst := (hsome e.value target).2 ⟨hpart, before, after, hsplit, hbefore⟩
      rw [hfirst] at hstops
      rw [show value.coerce template = .error ⟨e.value, target.kind⟩ from hstops, ← htarget]

end Value

end HttpTest
