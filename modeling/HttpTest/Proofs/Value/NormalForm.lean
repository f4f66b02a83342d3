import HttpTest.Proofs.Value.Json
import HttpTest.Proofs.Value.Throughout

/-!
# Normal forms

What is lost between a value and what is read back from its document is the names of records, all
but the last of the fields of one name, and numbers that are not finite (`Value.normal_eq_plain`).
Nothing is lost a second time, nor between a document and the value of it, as long as its numbers
are such as values have (`Value.normal_is_normal_form`).
-/

namespace HttpTest

namespace Value

/-- Whether a value, what is in it left aside, has a document that is read back as it: it is no
record, and no number that is not finite. -/
def documentary : Value → Bool
  | .record .. => false
  | .float x => x.isFinite
  | _ => true

mutual

/-- The value with every record in it replaced by the map of its fields, of which the last of a name
counts, and every number that is not finite by `null`. -/
def plain : Value → Value
  | .float x => if x.isFinite then .float x else .null
  | .list items => .list (plainItems items)
  | .map entries => .map (plainEntries entries)
  | .record _ fields => .ofEntries (plainEntries fields)
  | value => value

def plainItems : List Value → List Value
  | [] => []
  | item :: items => plain item :: plainItems items

def plainEntries : List (String × Value) → List (String × Value)
  | [] => []
  | (key, value) :: entries => (key, plain value) :: plainEntries entries

end

theorem plainItems_eq_map {items : List Value} (h : ∀ item ∈ items, item.normal = item.plain) :
    plainItems items = items.map normal := by
  induction items with
  | nil => rfl
  | cons item rest ih =>
    obtain ⟨hitem, hrest⟩ := List.forall_mem_cons.1 h
    rw [plainItems, List.map_cons, hitem, ih hrest]

theorem plainEntries_eq_mapValues {entries : List (String × Value)}
    (h : ∀ entry ∈ entries, entry.2.normal = entry.2.plain) :
    plainEntries entries = Dictionary.mapValues normal entries := by
  induction entries with
  | nil => rfl
  | cons entry rest ih =>
    obtain ⟨key, value⟩ := entry
    obtain ⟨hvalue, hrest⟩ := List.forall_mem_cons.1 h
    rw [plainEntries, ih hrest, ← hvalue]
    rfl

theorem normal_float (x : Number.Binary64) :
    (Value.float x).normal = if x.isFinite then .float x else .null := by
  show Json.toValue (if x.isFinite then .float x else .null) = _
  split <;> rfl

theorem normal_eq_plain (value : Value) : value.normal = value.plain := by
  induction value using Value.induction with
  | scalar value hs =>
    cases value with
    | int i => exact ofInt_toInt i
    | float x => exact normal_float x
    | list items => cases hs
    | map entries => cases hs
    | record name fields => cases hs
    | _ => rfl
  | list items ih => rw [normal_list, plain, plainItems_eq_map ih]
  | map entries ih => rw [normal_map, plain, plainEntries_eq_mapValues ih]
  | record name fields ih =>
    rw [normal_record, plain, ofEntries, plainEntries_eq_mapValues ih, Dictionary.mapValues_ofList]

/-! ## Values that are their own normal form -/

theorem map_eq_self_iff {α : Type} {f : α → α} {xs : List α} :
    xs.map f = xs ↔ ∀ x ∈ xs, f x = x := by
  have hid := List.map_inj_left (l := xs) (f := f) (g := id)
  rwa [List.map_id] at hid

theorem mapValues_eq_self_iff {α : Type} {f : α → α} {entries : List (String × α)} :
    Dictionary.mapValues f entries = entries ↔ ∀ entry ∈ entries, f entry.2 = entry.2 := by
  rw [Dictionary.mapValues, map_eq_self_iff]
  exact forall₂_congr fun entry _ => Prod.ext_iff.trans (and_iff_right rfl)

theorem normal_eq_self_of_scalar_iff {value : Value} (h : value.kind.isComposite = false) :
    value.normal = value ↔ value.documentary = true := by
  cases value with
  | int i => exact iff_of_true (ofInt_toInt i) rfl
  | float x =>
    rw [normal_float, documentary]
    cases x.isFinite <;> simp
  | list items => cases h
  | map entries => cases h
  | record name fields => cases h
  | _ => exact iff_of_true rfl rfl

/-- Only a value without records and without numbers that are not finite is its own normal form. -/
theorem normal_eq_self_iff (value : Value) :
    value.normal = value ↔ value.throughout documentary = true := by
  induction value using Value.induction with
  | scalar value hs => rw [throughout_of_scalar hs, normal_eq_self_of_scalar_iff hs]
  | list items ih =>
    rw [normal_list, list.injEq, map_eq_self_iff, throughout_list_iff]
    exact (forall₂_congr ih).trans (and_iff_right rfl).symm
  | map entries ih =>
    rw [normal_map, map.injEq, mapValues_eq_self_iff, throughout_iff_of_entries? rfl]
    exact (forall₂_congr ih).trans (and_iff_right rfl).symm
  | record name fields =>
    rw [normal_record, throughout_iff_of_entries? rfl]
    refine iff_of_false nofun ?_
    rintro ⟨hrecord, -⟩
    cases hrecord

theorem throughout_normal (value : Value) : value.normal.throughout documentary = true := by
  induction value using Value.induction with
  | scalar value hs =>
    rw [throughout_of_scalar (isComposite_kind_normal hs)]
    cases value with
    | float x =>
      rw [normal_float]
      -- only a finite number stays a number
      cases hx : x.isFinite with
      | true => exact hx
      | false => rfl
    | int i =>
      show (ofInt i.toInt).documentary = true
      rw [ofInt_toInt]
      rfl
    | list items => cases hs
    | map entries => cases hs
    | record name fields => cases hs
    | _ => rfl
  | list items ih =>
    rw [normal_list, throughout_list_iff]
    exact ⟨rfl, List.forall_mem_map.2 ih⟩
  | map entries ih =>
    rw [normal_map, throughout_iff_of_entries? rfl]
    exact ⟨rfl, List.forall_mem_map.2 ih⟩
  | record name fields ih =>
    rw [normal_record, throughout_iff_of_entries? rfl]
    refine ⟨rfl, List.forall_mem_map.2 fun field hfield => ?_⟩
    exact ih field (Dictionary.mem_of_mem_ofList hfield)

end Value

/-! ## Documents that are read and written -/

namespace Json

mutual

/-- Whether every number in a document is an integer of 64 bits or a finite double. -/
def numbersFit : Json → Bool
  | .integer i => decide (-2 ^ 63 ≤ i ∧ i < 2 ^ 63)
  | .float x => x.isFinite
  | .array items => itemsNumbersFit items
  | .object members => membersNumbersFit members
  | _ => true

def itemsNumbersFit : List Json → Bool
  | [] => true
  | item :: items => numbersFit item && itemsNumbersFit items

def membersNumbersFit : List (String × Json) → Bool
  | [] => true
  | (_, member) :: members => numbersFit member && membersNumbersFit members

end

theorem toJson_ofInt_iff (i : Int) :
    (Value.ofInt i).toJson = .integer i ↔ -2 ^ 63 ≤ i ∧ i < 2 ^ 63 := by
  unfold Value.ofInt
  split
  · rename_i hrange
    refine iff_of_true ?_ hrange
    have hint : (Int64.ofInt i).toInt = i := Int64.toInt_ofInt_of_le (by omega) (by omega)
    rw [Value.toJson, hint]
  · rename_i hrange
    refine iff_of_false ?_ hrange
    rw [Value.toJson]
    split
    all_goals
      intro h
      cases h

mutual

theorem toJson_toValue_iff : ∀ document : Json,
    document.toValue.toJson = document ↔ document.numbersFit = true
  | .null => iff_of_true rfl rfl
  | .bool _ => iff_of_true rfl rfl
  | .integer i => by
    rw [toValue, toJson_ofInt_iff, numbersFit, decide_eq_true_eq]
  | .float x => by
    rw [toValue, Value.toJson, numbersFit]
    cases x.isFinite <;> simp
  | .string _ => iff_of_true rfl rfl
  | .array items => by
    rw [toValue, Value.toJson, numbersFit, array.injEq, itemsToJson_itemsToValue_iff]
  | .object members => by
    rw [toValue, Value.toJson, numbersFit, object.injEq, entriesToJson_membersToValue_iff]

theorem itemsToJson_itemsToValue_iff : ∀ items : List Json,
    Value.itemsToJson (itemsToValue items) = items ↔ itemsNumbersFit items = true
  | [] => iff_of_true rfl rfl
  | item :: items => by
    rw [itemsToValue, Value.itemsToJson, itemsNumbersFit, List.cons.injEq, Bool.and_eq_true,
      toJson_toValue_iff item, itemsToJson_itemsToValue_iff items]

theorem entriesToJson_membersToValue_iff : ∀ members : List (String × Json),
    Value.entriesToJson (membersToValue members) = members ↔ membersNumbersFit members = true
  | [] => iff_of_true rfl rfl
  | (key, member) :: members => by
    rw [membersToValue, Value.entriesToJson, membersNumbersFit, List.cons.injEq, Prod.mk.injEq,
      Bool.and_eq_true, toJson_toValue_iff member, entriesToJson_membersToValue_iff members]
    exact and_congr_left fun _ => and_iff_right rfl

end

end Json

/-- Reading back the document of a value gives a normal form. It is reached at once, it is the value
itself exactly if that holds no record and no number that is not finite, and in general it is the
value with these replaced. A document is written from its value as it was exactly if its numbers are
integers of 64 bits and finite doubles. -/
theorem Value.normal_is_normal_form (value : Value) (document : Json) :
    value.toJson.toValue.toJson.toValue = value.toJson.toValue ∧
    (value.toJson.toValue = value ↔ value.throughout documentary = true) ∧
    value.toJson.toValue = value.plain ∧
    (document.toValue.toJson = document ↔ document.numbersFit = true) :=
  ⟨(normal_eq_self_iff value.normal).2 (throughout_normal value), normal_eq_self_iff value,
    normal_eq_plain value, Json.toJson_toValue_iff document⟩

end HttpTest
