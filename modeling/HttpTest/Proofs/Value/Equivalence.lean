import Mathlib.Data.List.Sort
import HttpTest.Proofs.Value.Json

/-!
# Equivalence of values

Comparison looks for a partner of each entry on one side only, and counts. On values without doubles
in which a name stands for one entry this settles whether the two are the same up to the order of
the fields of records: they become the same value once all fields are in the order of their names
(`equiv_iff_sortFields_eq`).
-/

namespace HttpTest.Value

open Dictionary (SameKeys)

def NamesInOrder (first second : String × Value) : Prop := first.1 ≤ second.1

instance : DecidableRel NamesInOrder := fun first second =>
  inferInstanceAs (Decidable (first.1 ≤ second.1))

instance : Std.Total NamesInOrder := ⟨fun _ _ => Std.le_total⟩

instance : IsTrans (String × Value) NamesInOrder := ⟨fun _ _ _ h h' => String.le_trans h h'⟩

def byName (entries : List (String × Value)) : List (String × Value) :=
  entries.insertionSort NamesInOrder

mutual

/-- The value with the fields of each record, at any depth, in the order of their names. -/
def sortFields : Value → Value
  | .list items => .list (itemsSortFields items)
  | .map entries => .map (entriesSortFields entries)
  | .record name fields => .record name (byName (entriesSortFields fields))
  | value => value

def itemsSortFields : List Value → List Value
  | [] => []
  | item :: items => sortFields item :: itemsSortFields items

def entriesSortFields : List (String × Value) → List (String × Value)
  | [] => []
  | (key, value) :: entries => (key, sortFields value) :: entriesSortFields entries

end

/-- A value without doubles in which each name stands for one entry. -/
structure Plain (value : Value) : Prop where
  regular : value.Regular
  floatFree : value.floatFree = true

instance (value : Value) : Decidable value.Plain :=
  decidable_of_iff (value.Regular ∧ value.floatFree = true)
    ⟨fun h => ⟨h.1, h.2⟩, fun h => ⟨h.regular, h.floatFree⟩⟩

theorem Plain.of_mem_parts {value part : Value} (h : value.Plain) (hp : part ∈ value.parts) :
    part.Plain :=
  ⟨h.regular.of_mem_parts hp, floatFree_of_mem_parts h.floatFree hp⟩

theorem Plain.list {items : List Value} (h : ∀ item ∈ items, item.Plain) :
    (Value.list items).Plain where
  regular := Regular.list fun item hi => (h item hi).regular
  floatFree := by
    rw [Value.floatFree, itemsFloatFree_eq_all, List.all_eq_true]
    exact fun item hi => (h item hi).floatFree

theorem Plain.map {entries : List (String × Value)} (hs : Dictionary.Sorted entries)
    (h : ∀ entry ∈ entries, entry.2.Plain) : (Value.map entries).Plain where
  regular := Regular.map hs fun entry he => (h entry he).regular
  floatFree := by
    rw [Value.floatFree, entriesFloatFree_eq_all, List.all_eq_true]
    exact fun entry he => (h entry he).floatFree

theorem Plain.record (name : String) {fields : List (String × Value)}
    (hn : (Dictionary.keys fields).Nodup) (h : ∀ field ∈ fields, field.2.Plain) :
    (Value.record name fields).Plain where
  regular := Regular.record name hn fun field hf => (h field hf).regular
  floatFree := by
    rw [Value.floatFree, entriesFloatFree_eq_all, List.all_eq_true]
    exact fun field hf => (h field hf).floatFree

theorem itemsSortFields_eq_map (items : List Value) :
    itemsSortFields items = items.map sortFields := by
  induction items with
  | nil => rfl
  | cons item rest ih => rw [itemsSortFields, List.map_cons, ih]

theorem entriesSortFields_eq_mapValues (entries : List (String × Value)) :
    entriesSortFields entries = Dictionary.mapValues sortFields entries := by
  induction entries with
  | nil => rfl
  | cons entry rest ih =>
    rw [entriesSortFields, ih]
    rfl

@[simp] theorem kind_sortFields (value : Value) : value.sortFields.kind = value.kind := by
  cases value <;> rfl

theorem sortFields_of_scalar {value : Value} (h : value.kind.isComposite = false) :
    value.sortFields = value := by
  cases value with
  | list items => cases h
  | map entries => cases h
  | record name fields => cases h
  | _ => rfl

/-! ### Entries by name -/

theorem perm_byName (entries : List (String × Value)) : (byName entries).Perm entries :=
  List.perm_insertionSort NamesInOrder entries

theorem sorted_byName {entries : List (String × Value)} (hn : (Dictionary.keys entries).Nodup) :
    Dictionary.Sorted (byName entries) := by
  have hle : (Dictionary.keys (byName entries)).Pairwise (· ≤ ·) :=
    List.pairwise_map.2 (List.pairwise_insertionSort NamesInOrder entries)
  have hne : (Dictionary.keys (byName entries)).Nodup :=
    ((perm_byName entries).map Prod.fst).nodup_iff.2 hn
  apply (hle.and hne).imp
  intro first second h
  exact Std.lt_of_le_of_ne h.1 h.2

theorem byName_eq_iff {left right : List (String × Value)} (hl : (Dictionary.keys left).Nodup)
    (hr : (Dictionary.keys right).Nodup) : byName left = byName right ↔
      ∀ key, Dictionary.find? key left = Dictionary.find? key right := by
  have hfind : ∀ {entries : List (String × Value)}, (Dictionary.keys entries).Nodup →
      ∀ key, Dictionary.find? key (byName entries) = Dictionary.find? key entries := by
    intro entries hn key
    exact (Dictionary.find?_eq_of_perm hn (perm_byName entries).symm key).symm
  constructor
  · intro h key
    rw [← hfind hl, ← hfind hr, h]
  · intro h
    apply Dictionary.eq_of_find?_eq (sorted_byName hl) (sorted_byName hr)
    intro key
    rw [hfind hl, hfind hr, h]

theorem eq_iff_find?_eq {left right : List (String × Value)} (hl : Dictionary.Sorted left)
    (hr : Dictionary.Sorted right) : left = right ↔
      ∀ key, Dictionary.find? key left = Dictionary.find? key right :=
  ⟨fun h _ => h ▸ rfl, Dictionary.eq_of_find?_eq hl hr⟩

/-! ### Comparison, shape by shape -/

theorem equiv_of_kind_ne {left right : Value} (hl : left.floatFree = true)
    (hr : right.floatFree = true) (h : left.kind ≠ right.kind) : left.equiv right = false := by
  cases left <;> cases right <;> first
    | exact absurd rfl h
    | rfl
    | (cases hl; done)
    | cases hr

theorem eq_of_same_of_scalar {left right : Value} (h : left.kind.isComposite = false)
    (hf : left.floatFree = true) (hs : left.same right = true) : left = right := by
  cases left with
  | null =>
    cases right with
    | null => rfl
    | _ => cases hs
  | bool b =>
    cases right with
    | bool c => exact congrArg Value.bool (eq_of_beq hs)
    | _ => cases hs
  | int i =>
    cases right with
    | int j => exact congrArg Value.int (eq_of_beq hs)
    | _ => cases hs
  | string s =>
    cases right with
    | string t => exact congrArg Value.string (eq_of_beq hs)
    | _ => cases hs
  | float x => cases hf
  | list items => cases h
  | map entries => cases h
  | record name fields => cases h

theorem equiv_iff_eq_of_scalar {left right : Value} (h : left.kind.isComposite = false)
    (hl : left.Plain) (hr : right.Plain) : left.equiv right = true ↔ left = right := by
  constructor
  · intro hequiv
    by_cases hk : right.kind = left.kind
    · rw [equiv_of_scalar h hk] at hequiv
      exact eq_of_same_of_scalar h hl.floatFree hequiv
    · rw [equiv_of_kind_ne hl.floatFree hr.floatFree fun e => hk e.symm] at hequiv
      cases hequiv
  · rintro rfl
    rw [equiv_of_scalar h rfl]
    exact same_self_of_scalar h (nanFree_of_scalar h hl.floatFree)

theorem equivItems_iff {items others : List Value}
    (ih : ∀ item ∈ items, ∀ other ∈ others,
      item.equiv other = true ↔ item.sortFields = other.sortFields) :
    (items.length = others.length ∧ equivItems items others = true) ↔
      items.map sortFields = others.map sortFields := by
  induction items generalizing others with
  | nil => cases others <;> simp [equivItems]
  | cons item items ihs =>
    cases others with
    | nil => simp
    | cons other others =>
      have hhead := ih item List.mem_cons_self other List.mem_cons_self
      have htail := ihs fun i hi o ho =>
        ih i (List.mem_cons_of_mem _ hi) o (List.mem_cons_of_mem _ ho)
      rw [List.map_cons, List.map_cons, List.cons.injEq, ← hhead, ← htail, equivItems,
        Bool.and_eq_true, List.length_cons, List.length_cons, Nat.succ_inj]
      exact and_left_comm

/-- Partners for the entries of one side, and as many entries on the other, make each name stand for
the same on both. -/
theorem equivEntries_iff_find? {entries others : List (String × Value)}
    (hn : (Dictionary.keys entries).Nodup) (hn' : (Dictionary.keys others).Nodup)
    (ih : ∀ entry ∈ entries, ∀ other ∈ others,
      entry.2.equiv other.2 = true ↔ entry.2.sortFields = other.2.sortFields) :
    (entries.length = others.length ∧ equivEntries entries others = true) ↔
      ∀ key, (Dictionary.find? key entries).map sortFields =
        (Dictionary.find? key others).map sortFields := by
  rw [equivEntries_iff]
  constructor
  · rintro ⟨hlength, hpartners⟩ key
    have hsub : Dictionary.keys entries ⊆ Dictionary.keys others := by
      intro key hkey
      obtain ⟨entry, hentry, rfl⟩ := List.mem_map.1 hkey
      obtain ⟨other, hother, -⟩ := hpartners entry hentry
      exact Dictionary.mem_keys_of_find? hother
    -- no key is left over on the other side, for there are no more of them
    have hsame := Dictionary.sameKeys_of_length_eq hn hsub hlength
    cases hfound : Dictionary.find? key entries with
    | none =>
      have hnone : Dictionary.find? key others = none := by
        rw [Dictionary.find?_eq_none_iff] at hfound ⊢
        exact fun hkey => hfound (hsame.2 hkey)
      rw [hnone]
    | some value =>
      have hentry := Dictionary.mem_of_find?_eq_some hfound
      obtain ⟨other, hother, hequiv⟩ := hpartners (key, value) hentry
      rw [show Dictionary.find? key others = some other from hother]
      exact congrArg some ((ih _ hentry _ (Dictionary.mem_of_find?_eq_some hother)).1 hequiv)
  · intro h
    have hsame : SameKeys entries others := by
      apply Dictionary.sameKeys_of_find?_eq_none_iff
      intro key
      rw [← Option.map_eq_none_iff, h, Option.map_eq_none_iff]
    refine ⟨hsame.length_eq hn hn', fun entry hentry => ?_⟩
    have hkey := h entry.1
    rw [Dictionary.find?_eq_some_of_mem hn hentry] at hkey
    obtain ⟨other, hother, heq⟩ := Option.map_eq_some_iff.1 hkey.symm
    exact ⟨other, hother, (ih _ hentry _ (Dictionary.mem_of_find?_eq_some hother)).2 heq.symm⟩

theorem keys_entriesSortFields (entries : List (String × Value)) :
    Dictionary.keys (entriesSortFields entries) = Dictionary.keys entries := by
  rw [entriesSortFields_eq_mapValues, Dictionary.keys_mapValues]

theorem find?_entriesSortFields (key : String) (entries : List (String × Value)) :
    Dictionary.find? key (entriesSortFields entries) =
      (Dictionary.find? key entries).map sortFields := by
  rw [entriesSortFields_eq_mapValues, Dictionary.find?_mapValues]

theorem equiv_iff_of_kind_ne {left right : Value} (hl : left.Plain) (hr : right.Plain)
    (h : left.kind ≠ right.kind) :
    left.equiv right = true ↔ left.sortFields = right.sortFields := by
  rw [equiv_of_kind_ne hl.floatFree hr.floatFree h]
  apply iff_of_false Bool.false_ne_true
  intro heq
  rw [← kind_sortFields left, heq, kind_sortFields] at h
  exact h rfl

/-- Plain values are equivalent exactly if they are the same once all fields are in order. -/
theorem equiv_iff_sortFields_eq {left right : Value} (hl : left.Plain) (hr : right.Plain) :
    left.equiv right = true ↔ left.sortFields = right.sortFields := by
  induction left using Value.induction generalizing right with
  | scalar left hs =>
    by_cases hk : left.kind = right.kind
    · rw [equiv_iff_eq_of_scalar hs hl hr, sortFields_of_scalar hs, sortFields_of_scalar (hk ▸ hs)]
    · exact equiv_iff_of_kind_ne hl hr hk
  | list items ih =>
    cases right with
    | list others =>
      rw [equiv, Bool.and_eq_true, beq_iff_eq, equivItems_iff, sortFields, sortFields,
        itemsSortFields_eq_map, itemsSortFields_eq_map, Value.list.injEq]
      exact fun item hi other ho => ih item hi (hl.of_mem_parts hi) (hr.of_mem_parts ho)
    | _ => exact equiv_iff_of_kind_ne hl hr (by simp [kind])
  | map entries ih =>
    cases right with
    | map others =>
      have hsorted : ∀ {entries}, (Value.map entries).Plain →
          Dictionary.Sorted (entriesSortFields entries) := by
        intro entries h
        rw [Dictionary.Sorted, keys_entriesSortFields]
        exact h.regular.sorted
      rw [equiv, Bool.and_eq_true, beq_iff_eq,
        equivEntries_iff_find? hl.regular.sorted.nodup_keys hr.regular.sorted.nodup_keys, sortFields,
        sortFields, Value.map.injEq, eq_iff_find?_eq (hsorted hl) (hsorted hr)]
      · simp only [find?_entriesSortFields]
      · intro entry he other ho
        exact ih entry he (hl.of_mem_parts (List.mem_map_of_mem he))
          (hr.of_mem_parts (List.mem_map_of_mem ho))
    | _ => exact equiv_iff_of_kind_ne hl hr (by simp [kind])
  | record name fields ih =>
    cases right with
    | record other others =>
      -- unlike the keys of a map those of a record differ without being in order
      have hnodup : ∀ {name fields}, (Value.record name fields).Plain →
          (Dictionary.keys (entriesSortFields fields)).Nodup := by
        intro name fields h
        rw [keys_entriesSortFields]
        exact (h.regular.of_entries? rfl).1
      rw [equiv, Bool.and_eq_true, Bool.and_eq_true, beq_iff_eq, beq_iff_eq, and_assoc,
        equivEntries_iff_find? (hl.regular.of_entries? rfl).1 (hr.regular.of_entries? rfl).1,
        sortFields, sortFields, Value.record.injEq, byName_eq_iff (hnodup hl) (hnodup hr)]
      · simp only [find?_entriesSortFields]
      · intro field hf other ho
        exact ih field hf (hl.of_mem_parts (List.mem_map_of_mem hf))
          (hr.of_mem_parts (List.mem_map_of_mem ho))
    | _ => exact equiv_iff_of_kind_ne hl hr (by simp [kind])

/-! ### Fields in another order -/

/-- The values differ in the order of the fields of records alone, at any depth. -/
inductive Reordered : Value → Value → Prop
  | refl (value : Value) : Reordered value value
  | trans {first second third : Value} :
      Reordered first second → Reordered second third → Reordered first third
  | fields (name : String) {fields others : List (String × Value)} :
      fields.Perm others → Reordered (.record name fields) (.record name others)
  | item (before after : List Value) {item other : Value} : Reordered item other →
      Reordered (.list (before ++ item :: after)) (.list (before ++ other :: after))
  | entry (before after : List (String × Value)) (key : String) {value other : Value} :
      Reordered value other →
      Reordered (.map (before ++ (key, value) :: after)) (.map (before ++ (key, other) :: after))
  | field (name : String) (before after : List (String × Value)) (key : String)
      {value other : Value} : Reordered value other →
      Reordered (.record name (before ++ (key, value) :: after))
        (.record name (before ++ (key, other) :: after))

theorem keys_replace (before after : List (String × Value)) (key : String) (value other : Value) :
    Dictionary.keys (before ++ (key, other) :: after) =
      Dictionary.keys (before ++ (key, value) :: after) := by
  simp [Dictionary.keys]

theorem forall_mem_replace {α : Type} {P : α → Prop} {before after : List α} {part other : α}
    (h : ∀ x ∈ before ++ part :: after, P x) (hother : P other) :
    ∀ x ∈ before ++ other :: after, P x := by
  rw [List.forall_mem_append, List.forall_mem_cons] at h ⊢
  exact ⟨h.1, hother, h.2.2⟩

theorem entriesSortFields_replace (before after : List (String × Value)) (key : String)
    {value other : Value} (h : value.sortFields = other.sortFields) :
    entriesSortFields (before ++ (key, value) :: after) =
      entriesSortFields (before ++ (key, other) :: after) := by
  simp [entriesSortFields_eq_mapValues, Dictionary.mapValues, h]

theorem Reordered.sortFields_eq {left right : Value} (h : Reordered left right)
    (hp : left.Plain) : right.Plain ∧ left.sortFields = right.sortFields := by
  induction h with
  | refl value => exact ⟨hp, rfl⟩
  | trans _ _ ih ih' =>
    obtain ⟨hsecond, heq⟩ := ih hp
    obtain ⟨hthird, heq'⟩ := ih' hsecond
    exact ⟨hthird, heq.trans heq'⟩
  | fields name hperm =>
    obtain ⟨hn, -⟩ := hp.regular.of_entries? rfl
    have hn' := (hperm.map Prod.fst).nodup_iff.1 hn
    constructor
    · apply Plain.record name hn'
      exact fun field hf => hp.of_mem_parts (List.mem_map_of_mem (hperm.mem_iff.2 hf))
    · rw [sortFields, sortFields, Value.record.injEq, byName_eq_iff]
      · refine ⟨rfl, fun key => ?_⟩
        rw [find?_entriesSortFields, find?_entriesSortFields, Dictionary.find?_eq_of_perm hn hperm]
      · rwa [keys_entriesSortFields]
      · rwa [keys_entriesSortFields]
  -- where a part is reordered the ones around it stay, and so do the names
  | item before after _ ih =>
    have hall : ∀ item : Value, item ∈ _ → item.Plain := fun item hi => hp.of_mem_parts hi
    obtain ⟨hother, heq⟩ := ih (hall _ (List.mem_append_right _ List.mem_cons_self))
    refine ⟨Plain.list (forall_mem_replace hall hother), ?_⟩
    simp [sortFields, itemsSortFields_eq_map, heq]
  | entry before after key _ ih =>
    have hall : ∀ entry : String × Value, entry ∈ _ → entry.2.Plain :=
      fun entry he => hp.of_mem_parts (List.mem_map_of_mem he)
    obtain ⟨hother, heq⟩ := ih (hall _ (List.mem_append_right _ List.mem_cons_self))
    constructor
    · apply Plain.map _ (forall_mem_replace hall hother)
      rw [Dictionary.Sorted, keys_replace before after key _ _]
      exact hp.regular.sorted
    · rw [sortFields, sortFields, entriesSortFields_replace before after key heq]
  | field name before after key _ ih =>
    have hall : ∀ field : String × Value, field ∈ _ → field.2.Plain :=
      fun field hf => hp.of_mem_parts (List.mem_map_of_mem hf)
    obtain ⟨hother, heq⟩ := ih (hall _ (List.mem_append_right _ List.mem_cons_self))
    constructor
    · apply Plain.record name _ (forall_mem_replace hall hother)
      rw [keys_replace before after key _ _]
      exact (hp.regular.of_entries? rfl).1
    · rw [sortFields, sortFields, entriesSortFields_replace before after key heq]

theorem equivalence_equiv :
    Equivalence fun left right : { value : Value // value.Plain } =>
      left.1.equiv right.1 = true where
  refl value := (equiv_iff_sortFields_eq value.2 value.2).2 rfl
  symm {left right} h :=
    (equiv_iff_sortFields_eq right.2 left.2).2
      ((equiv_iff_sortFields_eq left.2 right.2).1 h).symm
  trans {first second third} h h' :=
    (equiv_iff_sortFields_eq first.2 third.2).2
      (((equiv_iff_sortFields_eq first.2 second.2).1 h).trans
        ((equiv_iff_sortFields_eq second.2 third.2).1 h'))

/-- Plain values are equivalent exactly if they are the same once the fields of all records are in
the order of their names. So equivalence of such values is an equivalence relation, and it does not
see the order of fields. -/
theorem equiv_iff_same_up_to_order {left right : Value} (hl : left.Plain) (hr : right.Plain) :
    (left.equiv right = true ↔ left.sortFields = right.sortFields) ∧
      (∀ left' right' : Value, Reordered left left' → Reordered right right' →
        left'.equiv right' = left.equiv right) ∧
      Equivalence fun a b : { value : Value // value.Plain } => a.1.equiv b.1 = true := by
  refine ⟨equiv_iff_sortFields_eq hl hr, ?_, equivalence_equiv⟩
  intro left' right' hleft hright
  obtain ⟨hl', hleft⟩ := hleft.sortFields_eq hl
  obtain ⟨hr', hright⟩ := hright.sortFields_eq hr
  rw [Bool.eq_iff_iff, equiv_iff_sortFields_eq hl' hr', equiv_iff_sortFields_eq hl hr, hleft, hright]

/-- A record within a record within a list, with the fields of both in another order, and the same
with another value in the inner one. -/
theorem equiv_of_reordered_fields :
    let order (inner : List (String × Value)) := Value.list [.record "Order"
      [("lines", .record "Lines" inner), ("id", .int 3)]]
    let reordered := Value.list [.record "Order"
      [("id", .int 3), ("lines", .record "Lines" [("sku", .null), ("qty", .int 1)])]]
    let left := order [("qty", .int 1), ("sku", .null)]
    let right := order [("qty", .int 2), ("sku", .null)]
    left.Plain ∧ reordered.Plain ∧ right.Plain ∧ Reordered left reordered ∧
      left.equiv reordered = true ∧ left.equiv right = false ∧ reordered.equiv right = false := by
  intro order reordered left right
  have hleft : left.Plain := by decide
  have hreordered : reordered.Plain := by decide
  have hright : right.Plain := by decide
  have horder : Reordered left reordered := by
    apply Reordered.item [] []
    apply Reordered.trans (Reordered.field "Order" [] [("id", .int 3)] "lines" _)
    · exact Reordered.fields "Order" (List.Perm.swap _ _ [])
    · exact Reordered.fields "Lines" (List.Perm.swap _ _ [])
  have hdiffer : left.equiv right = false := by decide
  refine ⟨hleft, hreordered, hright, horder, ?_, hdiffer, ?_⟩
  · exact (equiv_iff_same_up_to_order hleft hreordered).1.2 (by decide)
  · exact ((equiv_iff_same_up_to_order hleft hright).2.1 reordered right horder (.refl right)).trans
      hdiffer

end HttpTest.Value
