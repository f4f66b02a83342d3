import HttpTest.Proofs.Value.Acceptance

/-!
# Values that equal themselves

A name addresses the first field that has it, in a template and in the comparison. So a field that
repeats a name stands against the first one of that name, and a record may differ from itself. A
value that holds nothing that is "not a number" is coerced to itself unchanged, and passes the check
against itself, exactly if the repeated fields that are reached through items, entries of maps and
first fields fit the first ones of their names (`Check.reflexive_iff_fieldsAgree`). A repeated field
only has to fit; it need not equal itself. Where no field is repeated nothing is left to ask for
(`Check.equal_self`).
-/

namespace HttpTest

open Number (Binary64)

theorem Number.Binary64.eq_self {x : Binary64} (h : x.isNaN = false) : x.eq x = true := by
  cases x with
  | nan => cases h
  | infinite negative => exact BEq.rfl
  | finite negative mantissa exponent canonical => simp [Binary64.eq]

namespace Value

mutual

/-- Whether no part of a value, at any depth, is "not a number". -/
def nanFree : Value → Bool
  | .float x => !x.isNaN
  | .list items => itemsNanFree items
  | .map entries | .record _ entries => entriesNanFree entries
  | _ => true

def itemsNanFree : List Value → Bool
  | [] => true
  | item :: items => nanFree item && itemsNanFree items

def entriesNanFree : List (String × Value) → Bool
  | [] => true
  | (_, value) :: entries => nanFree value && entriesNanFree entries

end

theorem itemsNanFree_eq_all (items : List Value) : itemsNanFree items = items.all nanFree := by
  induction items with
  | nil => rfl
  | cons item rest ih => rw [itemsNanFree, List.all_cons, ih]

theorem entriesNanFree_eq_all (entries : List (String × Value)) :
    entriesNanFree entries = entries.all (·.2.nanFree) := by
  induction entries with
  | nil => rfl
  | cons entry rest ih => rw [entriesNanFree, List.all_cons, ih]

/-- The value already has the shape of the template and equals it. -/
def Fits (value template : Value) : Prop :=
  value.coerce template = .ok value ∧ value.equiv template = true

instance (value template : Value) : Decidable (value.Fits template) :=
  inferInstanceAs (Decidable (_ ∧ _))

mutual

/-- Whether each field that repeats a name fits the first field of that name, in all records that are
reached through items, entries of maps and first fields. A repeated field is not looked into. -/
def fieldsAgree : Value → Bool
  | .list items => itemsFieldsAgree items
  | .map entries | .record _ entries => entriesFieldsAgree [] entries
  | _ => true

def itemsFieldsAgree : List Value → Bool
  | [] => true
  | item :: items => fieldsAgree item && itemsFieldsAgree items

/-- The same of entries behind earlier ones: an entry whose name is among those has to fit the first
of them, any other is looked into. -/
def entriesFieldsAgree (earlier : List (String × Value)) : List (String × Value) → Bool
  | [] => true
  | (name, value) :: entries =>
      (match Dictionary.find? name earlier with
        | some first => decide (value.Fits first)
        | none => fieldsAgree value) && entriesFieldsAgree (earlier ++ [(name, value)]) entries

end

theorem same_self_of_scalar {value : Value} (h : value.kind.isComposite = false)
    (hn : value.nanFree = true) : value.same value = true := by
  cases value with
  | null => rfl
  | bool b => exact BEq.rfl
  | int i => exact BEq.rfl
  | float x => exact Binary64.eq_self (Bool.not_eq_true' _ ▸ hn)
  | string s => exact BEq.rfl
  | _ => cases h

theorem accepts_self_of_scalar {value : Value} (h : value.kind.isComposite = false)
    (hn : value.nanFree = true) : value.accepts value = true := by
  have hown : value.coerceTo value.kind = .ok value := if_pos rfl
  rw [accepts_of_scalar h, hown]
  exact same_self_of_scalar h hn

theorem fits_self_of_scalar {value : Value} (h : value.kind.isComposite = false)
    (hn : value.nanFree = true) : value.Fits value := by
  constructor
  · rw [coerce_of_scalar value h]
    exact if_pos rfl
  · rw [equiv_of_scalar h rfl]
    exact same_self_of_scalar h hn

theorem fieldsAgree_of_scalar {value : Value} (h : value.kind.isComposite = false) :
    value.fieldsAgree = true := by
  cases value with
  | list items => cases h
  | map entries => cases h
  | record name fields => cases h
  | _ => rfl

theorem itemsFieldsAgree_eq_all (items : List Value) :
    itemsFieldsAgree items = items.all fieldsAgree := by
  induction items with
  | nil => rfl
  | cons item rest ih => rw [itemsFieldsAgree, List.all_cons, ih]

theorem coerceItems_self_iff (items : List Value) :
    (coerceItems items items = .ok items ∧ equivItems items items = true) ↔
      ∀ item ∈ items, item.Fits item := by
  induction items with
  | nil => simp [coerceItems, equivItems]
  | cons item rest ih =>
    rw [List.forall_mem_cons, ← ih, coerceItems, equivItems, Bool.and_eq_true]
    cases hitem : item.coerce item with
    | error e => simp [Fits, hitem]
    | ok item' =>
      cases hrest : coerceItems rest rest with
      | error e => simp
      | ok rest' =>
        simp only [Fits, hitem, Except.ok.injEq, List.cons.injEq]
        tauto

theorem coerceEntries_self_iff (entries : List (String × Value)) :
    (coerceEntries entries entries = .ok entries ∧ equivEntries entries entries = true) ↔
      ∀ entry ∈ entries, ∃ first, Dictionary.find? entry.1 entries = some first ∧
        entry.2.Fits first := by
  rw [coerceEntries_eq_ok_iff, equivEntries_iff, List.forall₂_same]
  constructor
  · rintro ⟨hcoerce, hequiv⟩ entry hentry
    obtain ⟨first, hfirst, hsame⟩ := hequiv entry hentry
    have hown := (hcoerce entry hentry).2
    rw [hfirst] at hown
    exact ⟨first, hfirst, hown, hsame⟩
  · intro h
    refine ⟨fun entry hentry => ⟨rfl, ?_⟩, fun entry hentry => ?_⟩
    all_goals obtain ⟨first, hfirst, hown, hsame⟩ := h entry hentry
    · rw [hfirst]
      exact hown
    · exact ⟨first, hfirst, hsame⟩

theorem entriesFieldsAgree_iff {earlier entries : List (String × Value)}
    (h : ∀ entry ∈ entries, entry.2.Fits entry.2 ↔ entry.2.fieldsAgree = true) :
    entriesFieldsAgree earlier entries = true ↔
      ∀ entry ∈ entries, ∃ first, Dictionary.find? entry.1 (earlier ++ entries) = some first ∧
        entry.2.Fits first := by
  induction entries generalizing earlier with
  | nil => simp [entriesFieldsAgree]
  | cons entry rest ih =>
    obtain ⟨name, value⟩ := entry
    obtain ⟨hvalue, hrest⟩ := List.forall_mem_cons.1 h
    have hmove : earlier ++ (name, value) :: rest = (earlier ++ [(name, value)]) ++ rest := by
      simp
    rw [entriesFieldsAgree, Bool.and_eq_true, List.forall_mem_cons, ih hrest, ← hmove]
    refine and_congr_left fun _ => ?_
    -- the first entry of the name is among the earlier ones, or is this one
    rw [Dictionary.find?_append, Dictionary.find?_cons, if_pos rfl]
    cases Dictionary.find? name earlier with
    | some first => simp
    | none => simpa using hvalue.symm

theorem coerceEntries_self_iff_fieldsAgree {entries : List (String × Value)}
    (ih : ∀ entry ∈ entries, entry.2.nanFree = true →
      (entry.2.Fits entry.2 ↔ entry.2.fieldsAgree = true))
    (hn : entriesNanFree entries = true) :
    (coerceEntries entries entries = .ok entries ∧ equivEntries entries entries = true) ↔
      entriesFieldsAgree [] entries = true := by
  rw [entriesNanFree_eq_all, List.all_eq_true] at hn
  rw [entriesFieldsAgree_iff fun entry he => ih entry he (hn entry he), List.nil_append,
    coerceEntries_self_iff]

theorem fits_self_iff {value : Value} (hn : value.nanFree = true) :
    value.Fits value ↔ value.fieldsAgree = true := by
  induction value using Value.induction with
  | scalar value h => exact iff_of_true (fits_self_of_scalar h hn) (fieldsAgree_of_scalar h)
  | list items ih =>
    rw [nanFree, itemsNanFree_eq_all, List.all_eq_true] at hn
    rw [fieldsAgree, itemsFieldsAgree_eq_all, List.all_eq_true,
      ← forall₂_congr fun item hi => ih item hi (hn item hi), ← coerceItems_self_iff, Fits, coerce,
      equiv]
    cases coerceItems items items <;> simp
  | map entries ih =>
    rw [fieldsAgree, ← coerceEntries_self_iff_fieldsAgree ih hn, Fits, coerce, equiv]
    cases coerceEntries entries entries <;> simp
  | record name fields ih =>
    rw [fieldsAgree, ← coerceEntries_self_iff_fieldsAgree ih hn, Fits, coerce, equiv]
    cases coerceEntries fields fields <;> simp

/-- The record in the second `f` differs from itself, but that field fits the first one. -/
example :
    let first := Value.record "Y" [("k", .record "R" [("b", .int 1), ("c", .int 2)]),
      ("z", .int 5)]
    let second := Value.record "Y" [("k", .record "R" [("b", .int 1), ("b", .int 1)]),
      ("k", .record "R" [("b", .int 1), ("c", .int 2)])]
    let value := Value.record "X" [("f", first), ("f", second)]
    second.fieldsAgree = false ∧ value.fieldsAgree = true ∧ value.Fits value := by
  decide +kernel

theorem entriesFieldsAgree_of_nodup {earlier entries : List (String × Value)}
    (hn : (Dictionary.keys (earlier ++ entries)).Nodup)
    (h : ∀ entry ∈ entries, entry.2.fieldsAgree = true) :
    entriesFieldsAgree earlier entries = true := by
  induction entries generalizing earlier with
  | nil => rfl
  | cons entry rest ih =>
    obtain ⟨name, value⟩ := entry
    obtain ⟨hvalue, hrest⟩ := List.forall_mem_cons.1 h
    have hnone : Dictionary.find? name earlier = none := by
      rw [Dictionary.find?_eq_none_iff]
      intro hmem
      rw [Dictionary.keys, List.map_append] at hn
      exact (List.nodup_append.1 hn).2.2 name hmem name List.mem_cons_self rfl
    rw [entriesFieldsAgree, hnone, Bool.and_eq_true]
    exact ⟨hvalue, ih (by simpa using hn) hrest⟩

theorem Regular.fieldsAgree {value : Value} (h : value.Regular) : value.fieldsAgree = true := by
  induction value using Value.induction with
  | scalar value hs => exact fieldsAgree_of_scalar hs
  | list items ih =>
    rw [Value.fieldsAgree, itemsFieldsAgree_eq_all, List.all_eq_true]
    exact fun item hi => ih item hi (h.of_mem_items hi)
  | map entries ih =>
    obtain ⟨hkeys, hentries⟩ := h.of_entries? rfl
    exact entriesFieldsAgree_of_nodup hkeys fun entry he => ih entry he (hentries entry he)
  | record name fields ih =>
    obtain ⟨hkeys, hentries⟩ := h.of_entries? rfl
    exact entriesFieldsAgree_of_nodup hkeys fun entry he => ih entry he (hentries entry he)

end Value

namespace Check

/-- A value that holds nothing that is "not a number" equals itself where names stand for one entry
each. -/
theorem equal_self {value : Value} (h : value.Regular) (hn : value.nanFree = true) :
    equal value value = .ok () := by
  obtain ⟨hown, hequiv⟩ := (Value.fits_self_iff hn).2 h.fieldsAgree
  rw [equal_eq_ok_iff, Value.matchesItem_iff]
  exact ⟨value, hown, hequiv⟩

/-- A value that holds nothing that is "not a number" is coerced to itself unchanged, passes the
check against itself and fails the check of being different exactly if the repeated fields that are
reached through items, entries of maps and first fields fit the first ones of their names. Where no
name is repeated they do. -/
theorem reflexive_iff_fieldsAgree {value : Value} (hn : value.nanFree = true) :
    ((value.coerce value = .ok value ∧ equal value value = .ok () ∧
        notEqual value value = .error (.equal value)) ↔ value.fieldsAgree = true) ∧
      (value.Regular → value.fieldsAgree = true) := by
  refine ⟨?_, Value.Regular.fieldsAgree⟩
  rw [← Value.fits_self_iff hn, Value.Fits]
  refine and_congr_right fun hown => ?_
  by_cases hequiv : value.equiv value = true <;> simp [equal, notEqual, hown, hequiv]

/-- A repeated field that agrees with the first one up to the sign of a zero, and a value in which
no name is repeated. -/
theorem reflexive_of_agreeing_field :
    let repeated := Value.list [.record "R" [("a", .int 1), ("b", .float (.zero true)),
      ("a", .int 1), ("b", .float (.zero false))]]
    let regular := Value.map [("k", .record "R" [("a", .int 1), ("b", .null)])]
    (repeated.nanFree = true ∧ repeated.coerce repeated = .ok repeated ∧
      equal repeated repeated = .ok () ∧ notEqual repeated repeated = .error (.equal repeated)) ∧
    regular.nanFree = true ∧ regular.Regular ∧ regular.fieldsAgree = true := by
  intro repeated regular
  have hrepeated : repeated.nanFree = true := by decide
  have hagree : repeated.fieldsAgree = true := by decide +kernel
  have hregular : regular.Regular := by decide
  exact ⟨⟨hrepeated, (reflexive_iff_fieldsAgree hrepeated).1.2 hagree⟩, rfl, hregular,
    (reflexive_iff_fieldsAgree rfl).2 hregular⟩

/-- A field that is repeated with a text is coerced to the integer that the first one holds. -/
theorem not_reflexive_of_repeated_field :
    ¬ ∀ value : Value, value.nanFree = true → value.coerce value = .ok value ∧
      equal value value = .ok () ∧ notEqual value value = .error (.equal value) := by
  intro h
  let value : Value := .record "R" [("a", .int 1), ("a", .string "x")]
  have hcoerce : value.coerce value = .error ⟨.string "x", .int⟩ := by decide +kernel
  obtain ⟨hown, -⟩ := h value rfl
  rw [hcoerce] at hown
  cases hown

end Check

end HttpTest
