import HttpTest.Value.Basic
import HttpTest.Proofs.Dictionary

/-!
# Values by structure

Values are taken apart by one induction, `Value.induction`, whose hypotheses speak of the items of a
list and the entries of a map or record. `Regular` values are those on which a name stands for one
entry: their maps are dictionaries and their records repeat no field.
-/

namespace HttpTest.Value

/-- What holds of scalars, and of a composite value if of its parts, holds of every value. -/
@[elab_as_elim]
theorem induction {P : Value → Prop}
    (scalar : ∀ value : Value, value.kind.isComposite = false → P value)
    (list : ∀ items : List Value, (∀ item ∈ items, P item) → P (.list items))
    (map : ∀ entries : List (String × Value), (∀ entry ∈ entries, P entry.2) → P (.map entries))
    (record : ∀ (name : String) (fields : List (String × Value)),
      (∀ field ∈ fields, P field.2) → P (.record name fields))
    (value : Value) : P value := by
  -- the parts of a value stand in a list or a list of pairs, which make claims of their own
  refine @Value.rec P (fun items => ∀ item ∈ items, P item)
    (fun entries => ∀ entry ∈ entries, P entry.2) (fun entry => P entry.2)
    (scalar _ rfl) (fun _ => scalar _ rfl) (fun _ => scalar _ rfl) (fun _ => scalar _ rfl)
    (fun _ => scalar _ rfl) list map record ?_ ?_ ?_ ?_ ?_ value
  · exact List.forall_mem_nil _
  · exact fun _ _ hitem hitems => List.forall_mem_cons.2 ⟨hitem, hitems⟩
  · exact List.forall_mem_nil _
  · exact fun _ _ hentry hentries => List.forall_mem_cons.2 ⟨hentry, hentries⟩
  · exact fun _ _ hvalue => hvalue

mutual

/-- Whether no record in a value, at any depth, repeats a field name. -/
def fieldsOnce : Value → Bool
  | .list items => itemsFieldsOnce items
  | .map entries => entriesFieldsOnce entries
  | .record _ fields => decide (Dictionary.keys fields).Nodup && entriesFieldsOnce fields
  | _ => true

def itemsFieldsOnce : List Value → Bool
  | [] => true
  | item :: items => fieldsOnce item && itemsFieldsOnce items

def entriesFieldsOnce : List (String × Value) → Bool
  | [] => true
  | (_, value) :: entries => fieldsOnce value && entriesFieldsOnce entries

end

/-- Every map in the value is a dictionary and no record repeats a field name. -/
structure Regular (value : Value) : Prop where
  wellFormed : value.wellFormed = true
  fieldsOnce : value.fieldsOnce = true

instance (value : Value) : Decidable value.Regular :=
  decidable_of_iff (value.wellFormed = true ∧ value.fieldsOnce = true)
    ⟨fun h => ⟨h.1, h.2⟩, fun h => ⟨h.wellFormed, h.fieldsOnce⟩⟩

theorem itemsWellFormed_eq_all (items : List Value) :
    itemsWellFormed items = items.all wellFormed := by
  induction items with
  | nil => rfl
  | cons item rest ih => rw [itemsWellFormed, List.all_cons, ih]

theorem entriesWellFormed_eq_all (entries : List (String × Value)) :
    entriesWellFormed entries = entries.all (·.2.wellFormed) := by
  induction entries with
  | nil => rfl
  | cons entry rest ih => rw [entriesWellFormed, List.all_cons, ih]

theorem itemsFieldsOnce_eq_all (items : List Value) :
    itemsFieldsOnce items = items.all fieldsOnce := by
  induction items with
  | nil => rfl
  | cons item rest ih => rw [itemsFieldsOnce, List.all_cons, ih]

theorem entriesFieldsOnce_eq_all (entries : List (String × Value)) :
    entriesFieldsOnce entries = entries.all (·.2.fieldsOnce) := by
  induction entries with
  | nil => rfl
  | cons entry rest ih => rw [entriesFieldsOnce, List.all_cons, ih]

theorem Regular.of_mem_items {items : List Value} (h : (Value.list items).Regular)
    {item : Value} (hi : item ∈ items) : item.Regular := by
  obtain ⟨hw, hf⟩ := h
  rw [Value.wellFormed, itemsWellFormed_eq_all, List.all_eq_true] at hw
  rw [Value.fieldsOnce, itemsFieldsOnce_eq_all, List.all_eq_true] at hf
  exact ⟨hw item hi, hf item hi⟩

theorem Regular.of_entries? {value : Value} (h : value.Regular)
    {entries : List (String × Value)} (he : value.entries? = some entries) :
    (Dictionary.keys entries).Nodup ∧ ∀ entry ∈ entries, entry.2.Regular := by
  obtain ⟨hw, hf⟩ := h
  cases value with
  | map own =>
    cases he
    rw [Value.wellFormed, Bool.and_eq_true, decide_eq_true_eq, entriesWellFormed_eq_all,
      List.all_eq_true] at hw
    rw [Value.fieldsOnce, entriesFieldsOnce_eq_all, List.all_eq_true] at hf
    exact ⟨hw.1.nodup_keys, fun entry hm => ⟨hw.2 entry hm, hf entry hm⟩⟩
  | record name own =>
    cases he
    rw [Value.wellFormed, entriesWellFormed_eq_all, List.all_eq_true] at hw
    rw [Value.fieldsOnce, Bool.and_eq_true, decide_eq_true_eq, entriesFieldsOnce_eq_all,
      List.all_eq_true] at hf
    exact ⟨hf.1, fun entry hm => ⟨hw entry hm, hf.2 entry hm⟩⟩
  | null => cases he
  | bool b => cases he
  | int i => cases he
  | float x => cases he
  | string s => cases he
  | list items => cases he

theorem sorted_of_wellFormed {entries : List (String × Value)}
    (h : (Value.map entries).wellFormed = true) : Dictionary.Sorted entries := by
  rw [Value.wellFormed, Bool.and_eq_true, decide_eq_true_eq] at h
  exact h.1

theorem Regular.sorted {entries : List (String × Value)} (h : (Value.map entries).Regular) :
    Dictionary.Sorted entries := sorted_of_wellFormed h.wellFormed

theorem Regular.scalar {value : Value} (h : value.kind.isComposite = false) : value.Regular := by
  cases value with
  | list items => cases h
  | map entries => cases h
  | record name fields => cases h
  | _ => exact ⟨rfl, rfl⟩

theorem Regular.list {items : List Value} (h : ∀ item ∈ items, item.Regular) :
    (Value.list items).Regular := by
  constructor
  · rw [Value.wellFormed, itemsWellFormed_eq_all, List.all_eq_true]
    exact fun item hi => (h item hi).wellFormed
  · rw [Value.fieldsOnce, itemsFieldsOnce_eq_all, List.all_eq_true]
    exact fun item hi => (h item hi).fieldsOnce

theorem Regular.map {entries : List (String × Value)} (hs : Dictionary.Sorted entries)
    (h : ∀ entry ∈ entries, entry.2.Regular) : (Value.map entries).Regular := by
  constructor
  · rw [Value.wellFormed, entriesWellFormed_eq_all, decide_eq_true hs, Bool.true_and,
      List.all_eq_true]
    exact fun entry he => (h entry he).wellFormed
  · rw [Value.fieldsOnce, entriesFieldsOnce_eq_all, List.all_eq_true]
    exact fun entry he => (h entry he).fieldsOnce

theorem Regular.record (name : String) {fields : List (String × Value)}
    (hn : (Dictionary.keys fields).Nodup) (h : ∀ field ∈ fields, field.2.Regular) :
    (Value.record name fields).Regular := by
  constructor
  · rw [Value.wellFormed, entriesWellFormed_eq_all, List.all_eq_true]
    exact fun field hf => (h field hf).wellFormed
  · rw [Value.fieldsOnce, entriesFieldsOnce_eq_all, decide_eq_true hn, Bool.true_and,
      List.all_eq_true]
    exact fun field hf => (h field hf).fieldsOnce

theorem eq_map_or_record_of_entries? {value : Value} {entries : List (String × Value)}
    (h : value.entries? = some entries) :
    value = .map entries ∨ ∃ name, value = .record name entries := by
  cases value with
  | map own => cases h; exact .inl rfl
  | record name own => cases h; exact .inr ⟨name, rfl⟩
  | _ => cases h

end HttpTest.Value
