import HttpTest.Value.Json
import HttpTest.Value.Lookup
import HttpTest.Proofs.Value.Reflexivity

/-!
# Values and their documents

What is read back from the document of a value is its normal form: every record has become the map
of its fields. A value without doubles accepts its normal form (`Check.equal_normal`), and looking
something up in a value and then taking the normal form is looking it up in the normal form
(`lookup?_normal`). So an equality check with any part of such a value passes on the same part of
its document.
-/

namespace HttpTest

/-! ## Documents, part by part -/

theorem Value.itemsToJson_eq_map (items : List Value) :
    Value.itemsToJson items = items.map Value.toJson := by
  induction items with
  | nil => rfl
  | cons item rest ih => rw [itemsToJson, List.map_cons, ih]

theorem Value.entriesToJson_eq_mapValues (entries : List (String × Value)) :
    Value.entriesToJson entries = Dictionary.mapValues Value.toJson entries := by
  induction entries with
  | nil => rfl
  | cons entry rest ih =>
    rw [entriesToJson, ih]
    rfl

theorem Json.itemsToValue_eq_map (items : List Json) :
    Json.itemsToValue items = items.map Json.toValue := by
  induction items with
  | nil => rfl
  | cons item rest ih => rw [itemsToValue, List.map_cons, ih]

theorem Json.membersToValue_eq_mapValues (members : List (String × Json)) :
    Json.membersToValue members = Dictionary.mapValues Json.toValue members := by
  induction members with
  | nil => rfl
  | cons member rest ih =>
    rw [membersToValue, ih]
    rfl

namespace Value

/-! ## The normal form -/

/-- What is read back from the document of a value. -/
def normal (value : Value) : Value := value.toJson.toValue

theorem ofInt_toInt (i : Int64) : ofInt i.toInt = .int i := by
  have hrange : -2 ^ 63 ≤ i.toInt ∧ i.toInt < 2 ^ 63 := ⟨i.le_toInt, i.toInt_lt⟩
  rw [ofInt, if_pos hrange, Int64.ofInt_toInt]

theorem normal_list (items : List Value) :
    (Value.list items).normal = .list (items.map normal) := by
  rw [normal, toJson, Json.toValue, itemsToJson_eq_map, Json.itemsToValue_eq_map, List.map_map]
  rfl

theorem normal_map (entries : List (String × Value)) :
    (Value.map entries).normal = .map (Dictionary.mapValues normal entries) := by
  rw [normal, toJson, Json.toValue, entriesToJson_eq_mapValues, Json.membersToValue_eq_mapValues,
    Dictionary.mapValues_mapValues]
  rfl

theorem normal_record (name : String) (fields : List (String × Value)) :
    (Value.record name fields).normal
      = .map (Dictionary.mapValues normal (Dictionary.ofList fields)) := by
  rw [normal, toJson, Json.ofMembers, Json.toValue, entriesToJson_eq_mapValues,
    ← Dictionary.mapValues_ofList, Json.membersToValue_eq_mapValues, Dictionary.mapValues_mapValues]
  rfl

theorem isComposite_kind_normal {value : Value} (h : value.kind.isComposite = false) :
    value.normal.kind.isComposite = false := by
  cases value with
  | int i =>
    show (ofInt i.toInt).kind.isComposite = false
    rw [ofInt_toInt]
    rfl
  | float x =>
    show (Json.toValue (if x.isFinite then .float x else .null)).kind.isComposite = false
    split <;> rfl
  | list items => cases h
  | map entries => cases h
  | record name fields => cases h
  | _ => rfl

/-- A map or record becomes a map in which each name stands for the normal form of what it stood
for. -/
theorem exists_normal_eq_map {value : Value} (h : value.Regular)
    {entries : List (String × Value)} (he : value.entries? = some entries) :
    ∃ actual, value.normal = .map actual ∧ Dictionary.Sorted actual ∧
      ∀ key, Dictionary.find? key actual = (Dictionary.find? key entries).map normal := by
  obtain ⟨hn, -⟩ := h.of_entries? he
  cases value with
  | map own =>
    cases he
    refine ⟨_, normal_map entries, ?_, fun key => Dictionary.find?_mapValues normal key entries⟩
    rw [Dictionary.Sorted, Dictionary.keys_mapValues]
    exact h.sorted
  | record name own =>
    cases he
    refine ⟨_, normal_record name entries, ?_, fun key => ?_⟩
    · rw [Dictionary.Sorted, Dictionary.keys_mapValues]
      exact Dictionary.sorted_ofList entries
    · -- the fields are put in order, which a lookup does not see where none is repeated
      rw [Dictionary.find?_mapValues, Dictionary.find?_ofList_of_nodup hn]
  | _ => cases he

theorem Regular.normal_of_entries? {value : Value} {entries : List (String × Value)}
    (h : value.Regular) (he : value.entries? = some entries)
    (ih : ∀ entry ∈ entries, entry.2.Regular → entry.2.normal.Regular) :
    value.normal.Regular := by
  obtain ⟨actual, heq, hsorted, hfind⟩ := exists_normal_eq_map h he
  rw [heq]
  refine Regular.map hsorted fun (key, part) hpart => ?_
  -- the entry is what its key stands for, which was made of an entry of the value
  have hfound := Dictionary.find?_eq_some_of_mem hsorted.nodup_keys hpart
  rw [hfind] at hfound
  obtain ⟨own, hown, rfl⟩ := Option.map_eq_some_iff.1 hfound
  have hmem := Dictionary.mem_of_find?_eq_some hown
  exact ih _ hmem ((h.of_entries? he).2 _ hmem)

theorem Regular.normal {value : Value} (h : value.Regular) : value.normal.Regular := by
  induction value using Value.induction with
  | scalar value hs => exact Regular.scalar (isComposite_kind_normal hs)
  | list items ih =>
    rw [normal_list]
    refine Regular.list fun item hitem => ?_
    obtain ⟨own, hown, rfl⟩ := List.mem_map.1 hitem
    exact ih own hown (h.of_mem_items hown)
  | map entries ih => exact h.normal_of_entries? rfl ih
  | record name fields ih => exact h.normal_of_entries? rfl ih

/-! ## Parts -/

/-- The items of a list, or what the names in a map or record stand for. -/
def parts : Value → List Value
  | .list items => items
  | .map entries | .record _ entries => entries.map Prod.snd
  | _ => []

theorem entry?_of_entries? {value : Value} {entries : List (String × Value)}
    (h : value.entries? = some entries) (name : List Char) :
    value.entry? name = Dictionary.find? (String.ofList name) entries := by
  rcases eq_map_or_record_of_entries? h with rfl | ⟨name, rfl⟩ <;> rfl

theorem mem_parts_of_entry?_eq_some {value part : Value} {name : List Char}
    (h : value.entry? name = some part) : part ∈ value.parts := by
  cases value with
  | list items =>
    obtain ⟨i, -, hi⟩ := Option.bind_eq_some_iff.1 h
    exact List.mem_of_getElem? hi
  | map entries => exact List.mem_map_of_mem (Dictionary.mem_of_find?_eq_some h)
  | record own fields => exact List.mem_map_of_mem (Dictionary.mem_of_find?_eq_some h)
  | _ => cases h

/-- What holds of a value and, if of a value, of its parts, holds of all that is found in it. -/
theorem of_lookup? {P : Value → Prop} (hparts : ∀ value, P value → ∀ part ∈ value.parts, P part)
    {value found : Value} {expression : String} (h : value.lookup? expression = some found)
    (hvalue : P value) : P found := by
  have hfollow : ∀ (names : List (List Char)) (value : Value), value.follow? names = some found →
      P value → P found := by
    -- the value changes from name to name
    intro names
    induction names with
    | nil =>
      intro value h hvalue
      cases h
      exact hvalue
    | cons name names ih =>
      intro value h hvalue
      obtain ⟨part, hpart, hrest⟩ := Option.bind_eq_some_iff.1 h
      exact ih part hrest (hparts value hvalue part (mem_parts_of_entry?_eq_some hpart))
  rw [lookup?] at h
  split at h
  · cases h
    exact hvalue
  · exact hfollow _ value h hvalue

/-- What holds of the items of a value and of its entries holds of its parts. -/
theorem of_mem_parts {P : Value → Prop} {value part : Value} (hp : part ∈ value.parts)
    (hitems : ∀ {items : List Value}, value = .list items → ∀ item ∈ items, P item)
    (hentries : ∀ {entries : List (String × Value)}, value.entries? = some entries →
      ∀ entry ∈ entries, P entry.2) : P part := by
  have hmem : ∀ {entries : List (String × Value)}, value.entries? = some entries →
      part ∈ entries.map Prod.snd → P part := by
    intro entries he hp
    obtain ⟨entry, hentry, rfl⟩ := List.mem_map.1 hp
    exact hentries he entry hentry
  cases value with
  | list items => exact hitems rfl part hp
  | map entries => exact hmem rfl hp
  | record name fields => exact hmem rfl hp
  | _ => cases hp

theorem Regular.of_mem_parts {value part : Value} (h : value.Regular) (hp : part ∈ value.parts) :
    part.Regular := by
  refine Value.of_mem_parts hp ?_ fun he => (h.of_entries? he).2
  rintro items rfl item hi
  exact h.of_mem_items hi

/-! ## Looking into a normal form -/

theorem entry?_of_scalar {value : Value} (h : value.kind.isComposite = false) (name : List Char) :
    value.entry? name = none := by
  cases value with
  | list items => cases h
  | map entries => cases h
  | record own fields => cases h
  | _ => rfl

theorem entry?_normal {value : Value} (h : value.Regular) (name : List Char) :
    value.normal.entry? name = (value.entry? name).map normal := by
  have hentries : ∀ {entries : List (String × Value)}, value.entries? = some entries →
      value.normal.entry? name = (value.entry? name).map normal := by
    intro entries he
    obtain ⟨actual, heq, -, hfind⟩ := exists_normal_eq_map h he
    rw [heq, entry?_of_entries? he]
    exact hfind _
  cases value with
  | list items =>
    -- a name is read as the same position, whatever stands there
    rw [normal_list, entry?, entry?, Option.map_bind]
    congr 1
    funext i
    exact List.getElem?_map
  | map entries => exact hentries rfl
  | record own fields => exact hentries rfl
  | _ => rw [entry?_of_scalar (isComposite_kind_normal rfl), entry?_of_scalar rfl]; rfl

theorem follow?_normal {value : Value} (h : value.Regular) (names : List (List Char)) :
    value.normal.follow? names = (value.follow? names).map normal := by
  induction names generalizing value with
  | nil => rfl
  | cons name names ih =>
    rw [follow?, follow?, entry?_normal h]
    cases hpart : value.entry? name with
    | none => rfl
    | some part => exact ih (h.of_mem_parts (mem_parts_of_entry?_eq_some hpart))

/-- Looking up commutes with taking the normal form. -/
theorem lookup?_normal {value : Value} (h : value.Regular) (expression : String) :
    value.normal.lookup? expression = (value.lookup? expression).map normal := by
  rw [lookup?, lookup?]
  split
  · rfl
  · exact follow?_normal h _

/-! ## Values without doubles -/

mutual

/-- Whether no part of a value, at any depth, is a double. -/
def floatFree : Value → Bool
  | .float _ => false
  | .list items => itemsFloatFree items
  | .map entries | .record _ entries => entriesFloatFree entries
  | _ => true

def itemsFloatFree : List Value → Bool
  | [] => true
  | item :: items => floatFree item && itemsFloatFree items

def entriesFloatFree : List (String × Value) → Bool
  | [] => true
  | (_, value) :: entries => floatFree value && entriesFloatFree entries

end

theorem itemsFloatFree_eq_all (items : List Value) :
    itemsFloatFree items = items.all floatFree := by
  induction items with
  | nil => rfl
  | cons item rest ih => rw [itemsFloatFree, List.all_cons, ih]

theorem entriesFloatFree_eq_all (entries : List (String × Value)) :
    entriesFloatFree entries = entries.all (·.2.floatFree) := by
  induction entries with
  | nil => rfl
  | cons entry rest ih => rw [entriesFloatFree, List.all_cons, ih]

theorem floatFree_of_mem_parts {value part : Value} (h : value.floatFree = true)
    (hp : part ∈ value.parts) : part.floatFree = true := by
  refine of_mem_parts (P := fun part => part.floatFree = true) hp ?_ ?_
  · rintro items rfl
    rwa [floatFree, itemsFloatFree_eq_all, List.all_eq_true] at h
  · intro entries he
    rcases eq_map_or_record_of_entries? he with rfl | ⟨name, rfl⟩ <;>
      rwa [floatFree, entriesFloatFree_eq_all, List.all_eq_true] at h

theorem normal_of_scalar {value : Value} (h : value.kind.isComposite = false)
    (hf : value.floatFree = true) : value.normal = value := by
  cases value with
  | int i => exact ofInt_toInt i
  | float x => cases hf
  | list items => cases h
  | map entries => cases h
  | record name fields => cases h
  | _ => rfl

theorem acceptsItems_normal {items : List Value}
    (h : ∀ item ∈ items, item.accepts item.normal = true) :
    acceptsItems items (items.map normal) = true := by
  induction items with
  | nil => rfl
  | cons item rest ih =>
    obtain ⟨hitem, hrest⟩ := List.forall_mem_cons.1 h
    rw [List.map_cons, acceptsItems, hitem, ih hrest]
    rfl

theorem accepts_normal_of_entries? {value : Value} {entries : List (String × Value)}
    (h : value.Regular) (he : value.entries? = some entries)
    (ih : ∀ entry ∈ entries, entry.2.accepts entry.2.normal = true) :
    value.accepts value.normal = true := by
  obtain ⟨actual, heq, -, hfind⟩ := exists_normal_eq_map h he
  obtain ⟨hn, -⟩ := h.of_entries? he
  have hkeys : Dictionary.SameKeys entries actual := by
    apply Dictionary.sameKeys_of_find?_eq_none_iff
    intro key
    rw [hfind, Option.map_eq_none_iff]
  have haccepts : acceptsEntries entries actual = true := by
    rw [acceptsEntries_iff]
    intro (key, part) hentry
    refine ⟨part.normal, ?_, ih _ hentry⟩
    rw [hfind, Dictionary.find?_eq_some_of_mem hn hentry]
    rfl
  -- what is expected may be a record, but what is found is always a map
  rw [heq]
  rcases eq_map_or_record_of_entries? he with rfl | ⟨name, rfl⟩ <;>
    rw [accepts, decide_eq_true hkeys, haccepts] <;> rfl

theorem nanFree_of_scalar {value : Value} (h : value.kind.isComposite = false)
    (hf : value.floatFree = true) : value.nanFree = true := by
  cases value with
  | float x => cases hf
  | list items => cases h
  | map entries => cases h
  | record name fields => cases h
  | _ => rfl

/-- A value without doubles accepts what is read back from its document. -/
theorem accepts_normal {value : Value} (h : value.Regular) (hf : value.floatFree = true) :
    value.accepts value.normal = true := by
  induction value using Value.induction with
  | scalar value hs =>
    -- it is compared with itself, and only "not a number" differs from itself
    rw [normal_of_scalar hs hf]
    exact accepts_self_of_scalar hs (nanFree_of_scalar hs hf)
  | list items ih =>
    rw [normal_list, accepts]
    refine acceptsItems_normal fun item hi => ?_
    exact ih item hi (h.of_mem_items hi) (floatFree_of_mem_parts hf hi)
  | map entries ih =>
    refine accepts_normal_of_entries? h rfl fun entry he => ?_
    have hpart : entry.2 ∈ (Value.map entries).parts := List.mem_map_of_mem he
    exact ih entry he (h.of_mem_parts hpart) (floatFree_of_mem_parts hf hpart)
  | record name fields ih =>
    refine accepts_normal_of_entries? h rfl fun field hfield => ?_
    have hpart : field.2 ∈ (Value.record name fields).parts := List.mem_map_of_mem hfield
    exact ih field hfield (h.of_mem_parts hpart) (floatFree_of_mem_parts hf hpart)

end Value

/-- An equality check of the document of a value with the value passes. -/
theorem Check.equal_normal {value : Value} (h : value.Regular) (hf : value.floatFree = true) :
    Check.equal value value.normal = .ok () := by
  rw [equal_eq_ok_iff, Value.matchesItem_eq_accepts h h.normal]
  exact Value.accepts_normal h hf

theorem Check.equal_lookup?_normal {value : Value} (h : value.Regular)
    (hf : value.floatFree = true) (expression : String) :
    Check.equal ((value.lookup? expression).getD .null)
      ((value.normal.lookup? expression).getD .null) = .ok () := by
  rw [Value.lookup?_normal h]
  cases hfound : value.lookup? expression with
  | none => exact equal_normal (Value.Regular.scalar rfl) rfl
  | some found =>
    have hregular := Value.of_lookup? (fun _ hv _ hp => hv.of_mem_parts hp) hfound h
    have hfloat := Value.of_lookup? (fun _ hv _ hp => Value.floatFree_of_mem_parts hv hp) hfound hf
    exact equal_normal hregular hfloat

end HttpTest
