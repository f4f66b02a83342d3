import HttpTest.Proofs.Value.Structure

/-!
# Tests at every depth

A test of one value becomes one of a value and everything in it (`Value.throughout`). Whether there
is no record anywhere in a value is such a test (`Value.recordFree`).
-/

namespace HttpTest.Value

mutual

/-- Whether a test passes on a value and on all that is in it, at any depth. -/
def throughout (test : Value → Bool) : Value → Bool
  | .list items => test (.list items) && itemsThroughout test items
  | .map entries => test (.map entries) && entriesThroughout test entries
  | .record name fields => test (.record name fields) && entriesThroughout test fields
  | value => test value

def itemsThroughout (test : Value → Bool) : List Value → Bool
  | [] => true
  | item :: items => throughout test item && itemsThroughout test items

def entriesThroughout (test : Value → Bool) : List (String × Value) → Bool
  | [] => true
  | (_, value) :: entries => throughout test value && entriesThroughout test entries

end

variable {test : Value → Bool}

theorem itemsThroughout_eq_all (items : List Value) :
    itemsThroughout test items = items.all (throughout test) := by
  induction items with
  | nil => rfl
  | cons item rest ih => rw [itemsThroughout, List.all_cons, ih]

theorem entriesThroughout_eq_all (entries : List (String × Value)) :
    entriesThroughout test entries = entries.all (·.2.throughout test) := by
  induction entries with
  | nil => rfl
  | cons entry rest ih => rw [entriesThroughout, List.all_cons, ih]

theorem throughout_of_scalar {value : Value} (h : value.kind.isComposite = false) :
    value.throughout test = test value := by
  cases value with
  | list items => cases h
  | map entries => cases h
  | record name fields => cases h
  | _ => rfl

theorem throughout_list_iff (items : List Value) :
    (Value.list items).throughout test = true ↔
      test (.list items) = true ∧ ∀ item ∈ items, item.throughout test = true := by
  rw [throughout, Bool.and_eq_true, itemsThroughout_eq_all, List.all_eq_true]

theorem throughout_iff_of_entries? {value : Value} {entries : List (String × Value)}
    (h : value.entries? = some entries) :
    value.throughout test = true ↔
      test value = true ∧ ∀ entry ∈ entries, entry.2.throughout test = true := by
  rcases eq_map_or_record_of_entries? h with rfl | ⟨name, rfl⟩ <;>
    rw [throughout, Bool.and_eq_true, entriesThroughout_eq_all, List.all_eq_true]

def recordFree (value : Value) : Bool := value.throughout (·.kind != .record)

theorem recordFree_list_iff (items : List Value) :
    (Value.list items).recordFree = true ↔ ∀ item ∈ items, item.recordFree = true :=
  (throughout_list_iff items).trans (and_iff_right rfl)

theorem recordFree_map_iff (entries : List (String × Value)) :
    (Value.map entries).recordFree = true ↔ ∀ entry ∈ entries, entry.2.recordFree = true :=
  (throughout_iff_of_entries? rfl).trans (and_iff_right rfl)

theorem not_recordFree_record (name : String) (fields : List (String × Value)) :
    (Value.record name fields).recordFree = false := rfl

end HttpTest.Value
