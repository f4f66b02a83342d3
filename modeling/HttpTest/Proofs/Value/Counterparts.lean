import HttpTest.Proofs.Value.Compatibility

/-!
# What coercion keeps

The result of a coercion has the shape of the template and is not changed by coercing it again.
Everything else in it comes from the value: `Counterpart` follows a part of the value, what the
template has at its place and what the result has there, and on every such triple coercion keeps the
positions and names (`HasPartsOf`) and leaves alone what the template does not speak of
(`coerce_keeps_parts`).
-/

namespace HttpTest

namespace Value

open Dictionary (SameKeys)

/-! ### One level -/

theorem exists_of_coerce_list {value result : Value} {templates : List Value}
    (h : value.coerce (.list templates) = .ok result) :
    ∃ items items', value = .list items ∧ coerceItems items templates = .ok items' ∧
      result = .list items' := by
  cases value with
  | list items =>
    rw [coerce] at h
    cases hc : coerceItems items templates with
    | error e =>
      rw [hc] at h
      cases h
    | ok items' =>
      rw [hc] at h
      cases h
      exact ⟨items, items', rfl, hc, rfl⟩
  | _ => cases h

theorem exists_of_coerce_entries? {value template result : Value}
    {templates : List (String × Value)} (ht : template.entries? = some templates)
    (h : value.coerce template = .ok result) :
    ∃ entries entries', value.entries? = some entries ∧
      coerceEntries entries templates = .ok entries' ∧
      result = value.withEntries template entries' := by
  cases hfits : value.compatible template with
  | false =>
    rw [(coerce_of_not_compatible hfits).1] at h
    cases h
  | true =>
    obtain ⟨entries, hv⟩ := exists_entries_of_compatible ht hfits
    rw [coerce_of_entries? hv ht] at h
    cases hc : coerceEntries entries templates with
    | error e =>
      rw [hc] at h
      cases h
    | ok entries' =>
      rw [hc] at h
      cases h
      exact ⟨entries, entries', hv, hc, rfl⟩

theorem kind_withEntries {value template : Value} {entries templates : List (String × Value)}
    (hv : value.entries? = some entries) (ht : template.entries? = some templates)
    (others : List (String × Value)) : (value.withEntries template others).kind = template.kind := by
  rcases eq_map_or_record_of_entries? hv with rfl | ⟨own, rfl⟩ <;>
    rcases eq_map_or_record_of_entries? ht with rfl | ⟨name, rfl⟩ <;> rfl

theorem kind_coerce {value template result : Value} (h : value.coerce template = .ok result) :
    result.kind = template.kind := by
  have hentries : ∀ {templates}, template.entries? = some templates →
      result.kind = template.kind := by
    intro templates ht
    obtain ⟨entries, entries', hv, -, rfl⟩ := exists_of_coerce_entries? ht h
    exact kind_withEntries hv ht entries'
  cases template with
  | list templates =>
    obtain ⟨items, items', -, -, rfl⟩ := exists_of_coerce_list h
    rfl
  | map templates => exact hentries rfl
  | record name templates => exact hentries rfl
  | _ =>
    rw [coerce_of_scalar value rfl] at h
    exact kind_coerceTo h

/-! ### A second time -/

/-- What was coerced to the template once is left as it is. -/
def Settles (template : Value) : Prop :=
  ∀ value result : Value, value.coerce template = .ok result → result.coerce template = .ok result

theorem exists_of_coerceItems_cons {item template : Value} {items templates items' : List Value}
    (h : coerceItems (item :: items) (template :: templates) = .ok items') :
    ∃ item' rest', item.coerce template = .ok item' ∧ coerceItems items templates = .ok rest' ∧
      items' = item' :: rest' := by
  rw [coerceItems] at h
  cases hitem : item.coerce template with
  | error e =>
    rw [hitem] at h
    cases h
  | ok item' =>
    rw [hitem] at h
    cases hrest : coerceItems items templates with
    | error e =>
      rw [hrest] at h
      cases h
    | ok rest' =>
      rw [hrest] at h
      cases h
      exact ⟨item', rest', rfl, rfl, rfl⟩

theorem coerceItems_self {items templates items' : List Value}
    (ih : ∀ template ∈ templates, template.Settles)
    (h : coerceItems items templates = .ok items') : coerceItems items' templates = .ok items' := by
  induction templates generalizing items items' with
  | nil => cases items' <;> rfl
  | cons template templates ihs =>
    cases items with
    | nil =>
      rw [coerceItems] at h
      cases h
      rw [coerceItems]
    | cons item items =>
      obtain ⟨htemplate, htemplates⟩ := List.forall_mem_cons.1 ih
      obtain ⟨item', rest', hitem, hrest, rfl⟩ := exists_of_coerceItems_cons h
      rw [coerceItems, htemplate item item' hitem, ihs htemplates hrest]

/-- Entries that were coerced to templates are left as they are, whichever of them are taken. -/
theorem coerceEntries_self {entries templates entries' taken : List (String × Value)}
    (ih : ∀ entry ∈ templates, entry.2.Settles)
    (h : coerceEntries entries templates = .ok entries')
    (htaken : ∀ entry ∈ taken, entry ∈ entries') : coerceEntries taken templates = .ok taken := by
  rw [coerceEntries_eq_ok_iff, List.forall₂_same]
  intro entry' hentry'
  obtain ⟨entry, -, hkey, hvalue⟩ := exists_of_mem_coerceEntries h (htaken entry' hentry')
  refine ⟨rfl, ?_⟩
  rw [hkey]
  cases hf : Dictionary.find? entry.1 templates with
  | none => rfl
  | some template =>
    rw [hf] at hvalue
    exact ih _ (Dictionary.mem_of_find?_eq_some hf) _ _ hvalue

/-- What entries become in the shape of the template is made of these entries, and is not made
anew. -/
theorem withEntries_self {value template : Value} {entries templates : List (String × Value)}
    (hv : value.entries? = some entries) (ht : template.entries? = some templates)
    (others : List (String × Value)) :
    ∃ taken, (value.withEntries template others).entries? = some taken ∧
      (∀ entry ∈ taken, entry ∈ others) ∧
      (value.withEntries template others).withEntries template taken =
        value.withEntries template others := by
  rcases eq_map_or_record_of_entries? hv with rfl | ⟨own, rfl⟩ <;>
    rcases eq_map_or_record_of_entries? ht with rfl | ⟨name, rfl⟩
  · exact ⟨others, rfl, fun _ h => h, rfl⟩
  · exact ⟨others, rfl, fun _ h => h, rfl⟩
  · exact ⟨Dictionary.ofList others, rfl, fun _ h => Dictionary.mem_of_mem_ofList h, rfl⟩
  · exact ⟨others, rfl, fun _ h => h, rfl⟩

theorem settles_of_entries? {template : Value} {templates : List (String × Value)}
    (ht : template.entries? = some templates) (ih : ∀ entry ∈ templates, entry.2.Settles) :
    template.Settles := by
  intro value result h
  obtain ⟨entries, entries', hv, hc, rfl⟩ := exists_of_coerce_entries? ht h
  obtain ⟨taken, htaken, hmem, hself⟩ := withEntries_self hv ht entries'
  rw [coerce_of_entries? htaken ht, coerceEntries_self ih hc hmem]
  exact congrArg Except.ok hself

theorem settles (template : Value) : template.Settles := by
  induction template using Value.induction with
  | scalar template hs =>
    intro value result h
    rw [coerce_of_scalar result hs]
    exact if_pos (kind_coerce h)
  | list templates ih =>
    intro value result h
    obtain ⟨items, items', rfl, hc, rfl⟩ := exists_of_coerce_list h
    rw [coerce, coerceItems_self ih hc]
  | map templates ih => exact settles_of_entries? rfl ih
  | record name templates ih => exact settles_of_entries? rfl ih

/-! ### Part by part -/

/-- A part of a value, what the template has at its place, and what the result of the coercion has
there. A map that was made of a record has the last field of each name. -/
inductive Counterpart (value template result : Value) :
    (part : Value) → (target? : Option Value) → (converted : Value) → Prop
  | root : Counterpart value template result value (some template) result
  | item {items templates items' : List Value} {i : Nat} {part converted : Value} :
      Counterpart value template result (.list items) (some (.list templates)) (.list items') →
      items[i]? = some part → items'[i]? = some converted →
      Counterpart value template result part templates[i]? converted
  | entry {entries templates entries' : List (String × Value)} {key : String}
      {part converted : Value} :
      Counterpart value template result (.map entries) (some (.map templates)) (.map entries') →
      Dictionary.find? key entries = some part → Dictionary.find? key entries' = some converted →
      Counterpart value template result part (Dictionary.find? key templates) converted
  | lastField {name : String} {fields templates entries' : List (String × Value)} {key : String}
      {part converted : Value} :
      Counterpart value template result (.record name fields) (some (.map templates))
        (.map entries') →
      Dictionary.find? key fields.reverse = some part →
      Dictionary.find? key entries' = some converted →
      Counterpart value template result part (Dictionary.find? key templates) converted
  | field {whole : Value} {entries templates fields' : List (String × Value)}
      {name name' key key' : String} {i : Nat} {part converted : Value} :
      Counterpart value template result whole (some (.record name templates))
        (.record name' fields') →
      whole.entries? = some entries → entries[i]? = some (key, part) →
      fields'[i]? = some (key', converted) →
      Counterpart value template result part (Dictionary.find? key templates) converted

/-- The result has what the value has: as many items, the same set of keys, or the same names one
after the other. -/
structure HasPartsOf (result value : Value) : Prop where
  length_eq : ∀ {items' : List Value}, result = .list items' →
    ∃ items, value = .list items ∧ items'.length = items.length
  sameKeys : ∀ {entries' : List (String × Value)}, result = .map entries' →
    ∃ entries, value.entries? = some entries ∧ SameKeys entries' entries
  keys_eq : ∀ {name : String} {fields' : List (String × Value)}, result = .record name fields' →
    ∃ entries, value.entries? = some entries ∧ Dictionary.keys fields' = Dictionary.keys entries

theorem coerceItems_getElem? {items templates items' : List Value}
    (h : coerceItems items templates = .ok items') : items'.length = items.length ∧
      ∀ {i : Nat} {item item' : Value}, items[i]? = some item → items'[i]? = some item' →
        item.coerceAt templates[i]? = .ok item' := by
  induction templates generalizing items items' with
  | nil =>
    have hsame : items' = items := by
      cases items <;> cases h <;> rfl
    subst hsame
    refine ⟨rfl, fun hitem hitem' => ?_⟩
    cases hitem.symm.trans hitem'
    rfl
  | cons template templates ih =>
    cases items with
    | nil =>
      rw [coerceItems] at h
      cases h
      refine ⟨rfl, fun hitem _ => ?_⟩
      cases hitem
    | cons item items =>
      obtain ⟨item', rest', hitem, hrest, rfl⟩ := exists_of_coerceItems_cons h
      obtain ⟨hlength, hparts⟩ := ih hrest
      refine ⟨congrArg Nat.succ hlength, fun {i} part part' hpart hpart' => ?_⟩
      cases i with
      | zero =>
        cases hpart
        cases hpart'
        exact hitem
      | succ i => exact hparts hpart hpart'

theorem hasPartsOf_withEntries {value template : Value}
    {entries templates entries' : List (String × Value)} (hv : value.entries? = some entries)
    (ht : template.entries? = some templates)
    (hkeys : Dictionary.keys entries' = Dictionary.keys entries) :
    (value.withEntries template entries').HasPartsOf value := by
  have hsame : SameKeys entries' entries := by
    rw [SameKeys, hkeys]
    exact ⟨List.Subset.refl _, List.Subset.refl _⟩
  have hdictionary : SameKeys (Dictionary.ofList entries') entries :=
    (Dictionary.sameKeys_ofList entries').trans hsame
  rcases eq_map_or_record_of_entries? hv with rfl | ⟨own, rfl⟩ <;>
    rcases eq_map_or_record_of_entries? ht with rfl | ⟨name, rfl⟩
  · exact ⟨nofun, by rintro _ ⟨⟩; exact ⟨entries, rfl, hsame⟩, nofun⟩
  · exact ⟨nofun, nofun, by rintro _ _ ⟨⟩; exact ⟨entries, rfl, hkeys⟩⟩
  · exact ⟨nofun, by rintro _ ⟨⟩; exact ⟨entries, rfl, hdictionary⟩, nofun⟩
  · exact ⟨nofun, nofun, by rintro _ _ ⟨⟩; exact ⟨entries, rfl, hkeys⟩⟩

theorem hasPartsOf_of_scalar {result : Value} (h : result.kind.isComposite = false)
    (value : Value) : result.HasPartsOf value := by
  constructor
  · rintro _ rfl
    cases h
  · rintro _ rfl
    cases h
  · rintro _ _ rfl
    cases h

theorem hasPartsOf_coerce {value template result : Value} (h : value.coerce template = .ok result) :
    result.HasPartsOf value := by
  have hentries : ∀ {templates}, template.entries? = some templates → result.HasPartsOf value := by
    intro templates ht
    obtain ⟨entries, entries', hv, hc, rfl⟩ := exists_of_coerce_entries? ht h
    exact hasPartsOf_withEntries hv ht (keys_coerceEntries hc)
  have hkind := kind_coerce h
  cases template with
  | list templates =>
    obtain ⟨items, items', rfl, hc, rfl⟩ := exists_of_coerce_list h
    exact ⟨by rintro _ ⟨⟩; exact ⟨items, rfl, (coerceItems_getElem? hc).1⟩, nofun, nofun⟩
  | map templates => exact hentries rfl
  | record name templates => exact hentries rfl
  | _ =>
    apply hasPartsOf_of_scalar
    rw [hkind]
    rfl

/-- What the result has in the place of a part is what the part is coerced to. -/
theorem Counterpart.coerceAt_eq {value template result : Value}
    (h : value.coerce template = .ok result) {part converted : Value} {target? : Option Value}
    (hc : Counterpart value template result part target? converted) :
    part.coerceAt target? = .ok converted := by
  induction hc with
  | root => exact h
  | item _ hpart hconverted ih =>
    obtain ⟨items, items', hv, hitems, hr⟩ := exists_of_coerce_list ih
    cases hv
    cases hr
    exact (coerceItems_getElem? hitems).2 hpart hconverted
  | entry _ hpart hconverted ih =>
    obtain ⟨entries, entries', hv, hentries, hr⟩ := exists_of_coerce_entries? rfl ih
    cases hv
    cases hr
    obtain ⟨converted', hok, hfound⟩ := find?_coerceEntries hentries hpart
    cases hfound.symm.trans hconverted
    exact hok
  | lastField _ hpart hconverted ih =>
    obtain ⟨fields, fields', hv, hfields, hr⟩ := exists_of_coerce_entries? rfl ih
    cases hv
    cases hr
    -- the dictionary has the last of the coerced fields, the first one from the end
    have hreverse : coerceEntries _ _ = .ok fields'.reverse :=
      coerceEntries_eq_ok_iff.2 (List.rel_reverse (coerceEntries_eq_ok_iff.1 hfields))
    obtain ⟨converted', hok, hfound⟩ := find?_coerceEntries hreverse hpart
    rw [Dictionary.find?_ofList] at hconverted
    cases hfound.symm.trans hconverted
    exact hok
  | @field whole entries templates fields' name name' key key' i part converted _ hv hpart
      hconverted ih =>
    obtain ⟨entries', fields'', hv', hfields, hr⟩ := exists_of_coerce_entries? rfl ih
    cases hv.symm.trans hv'
    have hsame : fields'' = fields' := by
      rcases eq_map_or_record_of_entries? hv with rfl | ⟨own, rfl⟩ <;> cases hr <;> rfl
    subst hsame
    exact (coercesEntry_of_getElem? hfields hpart hconverted).2

/-- A coerced value has the kind of the template and is not changed by coercing it again. It has the
parts of the value, at every depth, and those that the template does not speak of are the same. -/
theorem coerce_keeps_parts {value template result : Value} (h : value.coerce template = .ok result) :
    result.kind = template.kind ∧ result.coerce template = .ok result ∧
      result.HasPartsOf value ∧
      ∀ part target? converted, Counterpart value template result part target? converted →
        (target? = none → converted = part) ∧
        ∀ target, target? = some target →
          converted.kind = target.kind ∧ converted.HasPartsOf part := by
  refine ⟨kind_coerce h, template.settles value result h, hasPartsOf_coerce h, ?_⟩
  intro part target? converted hcounterpart
  have hpart := hcounterpart.coerceAt_eq h
  constructor
  · rintro rfl
    cases hpart
    rfl
  · rintro target rfl
    exact ⟨kind_coerce hpart, hasPartsOf_coerce hpart⟩

/-- A record becomes a map, in which the last of two fields of one name is left. An item that is
below that field and behind the items of the template stays as it was. -/
theorem coerce_keeps_parts_below_last_field :
    let templates := [("id", Value.int 0), ("tags", .list [.int 0])]
    let value := Value.record "Order" [("tags", .list []), ("id", .string " 3"),
      ("tags", .list [.bool true, .int 2])]
    let template := Value.map templates
    let result := Value.map [("id", .int 3), ("tags", .list [.int 1, .int 2])]
    value.coerce template = .ok result ∧ result.coerce template = .ok result ∧
      result.HasPartsOf value ∧ Counterpart value template result (.int 2) none (.int 2) ∧
      ∀ converted, Counterpart value template result (.int 2) none converted →
        converted = .int 2 := by
  intro templates value template result
  have hcoerce : value.coerce template = .ok result := by decide
  obtain ⟨-, hself, hparts, hbelow⟩ := coerce_keeps_parts hcoerce
  have htags : Counterpart value template result (.list [.bool true, .int 2])
      (Dictionary.find? "tags" templates) (.list [.int 1, .int 2]) := .lastField .root rfl rfl
  refine ⟨hcoerce, hself, hparts, .item (i := 1) htags rfl rfl, ?_⟩
  intro converted hconverted
  exact (hbelow _ _ _ hconverted).1 rfl

end Value

end HttpTest
