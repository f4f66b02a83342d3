import Mathlib.Data.List.Forall2
import HttpTest.Comparison
import HttpTest.Proofs.Value.Structure

/-!
# Coercion and comparison, part by part

What the recursions over the parts of a value do, said without recursion. Coercion keeps the names
of the entries and coerces each to the first template of its name (`coerceEntries_eq_ok_iff`), and
comparison finds an equivalent entry for each (`equivEntries_iff`). On scalars both come down to
`coerceTo` and `==`.
-/

namespace HttpTest

open Number (Binary64)

theorem Number.Binary64.eq_comm (x y : Binary64) : x.eq y = y.eq x := by
  cases x <;> cases y <;> try rfl
  · exact Bool.beq_comm
  · rename_i s m e _ t n f _
    simp only [Binary64.eq]
    by_cases hm : m = n
    · subst hm
      rw [Bool.beq_comm (a := s), BEq.comm (a := e)]
    · -- numbers of different significands differ, and then the signs are not looked at
      have hn : ¬ n = m := fun h => hm h.symm
      rw [beq_false_of_ne hm, beq_false_of_ne hn]
      rfl

namespace Value

mutual

theorem same_comm : ∀ left right : Value, left.same right = right.same left
  | .null, right => by cases right <;> rfl
  | .bool a, right => by
    cases right with
    | bool b => exact Bool.beq_comm
    | _ => rfl
  | .int a, right => by
    cases right with
    | int b => exact BEq.comm
    | _ => rfl
  | .float x, right => by
    cases right with
    | float y => exact Number.Binary64.eq_comm x y
    | _ => rfl
  | .string s, right => by
    cases right with
    | string t => exact BEq.comm
    | _ => rfl
  | .list items, right => by
    cases right with
    | list others => exact sameItems_comm items others
    | _ => rfl
  | .map entries, right => by
    cases right with
    | map others => exact sameEntries_comm entries others
    | _ => rfl
  | .record name fields, right => by
    cases right with
    | record other others =>
      rw [same, same, BEq.comm, sameEntries_comm fields others]
    | _ => rfl

theorem sameItems_comm : ∀ left right : List Value, sameItems left right = sameItems right left
  | [], right => by cases right <;> rfl
  | _ :: _, [] => rfl
  | item :: items, other :: others => by
    rw [sameItems, sameItems, same_comm item other, sameItems_comm items others]

theorem sameEntries_comm :
    ∀ left right : List (String × Value), sameEntries left right = sameEntries right left
  | [], right => by cases right <;> rfl
  | _ :: _, [] => rfl
  | (_, value) :: entries, (_, other) :: others => by
    rw [sameEntries, sameEntries, BEq.comm, same_comm value other,
      sameEntries_comm entries others]

end

/-! ### Scalars -/

theorem kind_scalarAs? {value converted : Value} {target : Kind}
    (h : value.scalarAs? target = some converted) : converted.kind = target := by
  unfold scalarAs? at h
  split at h
  all_goals first
    | (obtain ⟨_, -, rfl⟩ := Option.map_eq_some_iff.1 h; rfl)
    | (cases h; rfl)
    | cases h

theorem kind_coerceTo {value converted : Value} {target : Kind}
    (h : value.coerceTo target = .ok converted) : converted.kind = target := by
  unfold coerceTo at h
  split at h
  · rename_i hk
    cases h
    exact hk
  · split at h
    · rename_i hs
      cases h
      exact kind_scalarAs? hs
    · cases h

theorem coerce_of_scalar (value : Value) {template : Value}
    (h : template.kind.isComposite = false) :
    value.coerce template = value.coerceTo template.kind := by
  rw [coerce]
  -- no clause for composite templates applies
  all_goals
    intros
    subst_vars
    cases h

theorem equiv_of_scalar {left right : Value} (h : left.kind.isComposite = false)
    (hk : right.kind = left.kind) : left.equiv right = (left == right) := by
  rw [equiv]
  -- nor does one for two composite values or for numbers of different kinds
  all_goals
    intros
    subst_vars
    first
      | (cases h; done)
      | cases hk

/-! ### Items and entries -/

def coerceAt (template? : Option Value) (value : Value) : Except CoercionError Value :=
  match template? with
  | some template => value.coerce template
  | none => .ok value

theorem coerceEntries_cons (key : String) (value : Value)
    (entries templates : List (String × Value)) :
    coerceEntries ((key, value) :: entries) templates =
      match value.coerceAt (Dictionary.find? key templates) with
      | .error e => .error e
      | .ok value =>
        match coerceEntries entries templates with
        | .error e => .error e
        | .ok entries => .ok ((key, value) :: entries) := by
  rw [coerceEntries]
  unfold coerceAt
  rfl

/-- An entry keeps its name and is coerced to the template of that name. -/
def CoercesEntry (templates : List (String × Value)) (entry converted : String × Value) : Prop :=
  converted.1 = entry.1 ∧
    entry.2.coerceAt (Dictionary.find? entry.1 templates) = .ok converted.2

theorem coerceEntries_eq_ok_iff {entries templates converted : List (String × Value)} :
    coerceEntries entries templates = .ok converted ↔
      List.Forall₂ (CoercesEntry templates) entries converted := by
  constructor
  · intro h
    induction entries generalizing converted with
    | nil =>
      rw [coerceEntries] at h
      cases h
      exact .nil
    | cons entry rest ih =>
      obtain ⟨key, value⟩ := entry
      rw [coerceEntries_cons] at h
      split at h
      · cases h
      · rename_i value' hv
        split at h
        · cases h
        · rename_i rest' hr
          cases h
          exact .cons ⟨rfl, hv⟩ (ih hr)
  · intro h
    induction h with
    | nil => rw [coerceEntries]
    | @cons entry entry' rest rest' hentry _ ih =>
      obtain ⟨key, value⟩ := entry
      obtain ⟨key', value'⟩ := entry'
      obtain ⟨rfl, hv⟩ := hentry
      rw [coerceEntries_cons, hv, ih]

theorem keys_coerceEntries {entries templates converted : List (String × Value)}
    (h : coerceEntries entries templates = .ok converted) :
    Dictionary.keys converted = Dictionary.keys entries := by
  have hall := coerceEntries_eq_ok_iff.1 h
  clear h
  induction hall with
  | nil => rfl
  | cons hentry _ ih => exact congrArg₂ List.cons hentry.1 ih

theorem find?_coerceEntries {entries templates converted : List (String × Value)}
    (h : coerceEntries entries templates = .ok converted) {key : String} {value : Value}
    (hf : Dictionary.find? key entries = some value) :
    ∃ value', value.coerceAt (Dictionary.find? key templates) = .ok value' ∧
      Dictionary.find? key converted = some value' := by
  have hall := coerceEntries_eq_ok_iff.1 h
  clear h
  induction hall with
  | nil => cases hf
  | @cons entry entry' rest rest' hentry _ ih =>
    obtain ⟨k, v⟩ := entry
    obtain ⟨k', v'⟩ := entry'
    obtain ⟨rfl, hv⟩ := hentry
    rw [Dictionary.find?_cons] at hf ⊢
    by_cases hk : k' = key
    · subst hk
      rw [if_pos rfl] at hf ⊢
      cases hf
      exact ⟨v', hv, rfl⟩
    · rw [if_neg hk] at hf ⊢
      exact ih hf

theorem coercesEntry_of_getElem? {entries templates converted : List (String × Value)}
    (h : coerceEntries entries templates = .ok converted) {i : Nat} {entry entry' : String × Value}
    (he : entries[i]? = some entry) (hc : converted[i]? = some entry') :
    CoercesEntry templates entry entry' := by
  obtain ⟨hi, rfl⟩ := List.getElem?_eq_some_iff.1 he
  obtain ⟨hi', rfl⟩ := List.getElem?_eq_some_iff.1 hc
  exact (coerceEntries_eq_ok_iff.1 h).get hi hi'

theorem exists_of_mem_coerceEntries {entries templates converted : List (String × Value)}
    (h : coerceEntries entries templates = .ok converted) {entry' : String × Value}
    (hm : entry' ∈ converted) : ∃ entry ∈ entries, CoercesEntry templates entry entry' := by
  obtain ⟨i, hi, rfl⟩ := List.getElem_of_mem hm
  have hlength := (coerceEntries_eq_ok_iff.1 h).length_eq
  have hi' : i < entries.length := by omega
  exact ⟨entries[i], List.getElem_mem hi', coercesEntry_of_getElem? h
    (List.getElem?_eq_getElem hi') (List.getElem?_eq_getElem hi)⟩

theorem exists_coerceEntries {entries templates : List (String × Value)}
    (h : ∀ entry ∈ entries, ∃ value',
      entry.2.coerceAt (Dictionary.find? entry.1 templates) = .ok value') :
    ∃ converted, coerceEntries entries templates = .ok converted := by
  induction entries with
  | nil => exact ⟨[], by rw [coerceEntries]⟩
  | cons entry rest ih =>
    obtain ⟨key, value⟩ := entry
    obtain ⟨⟨value', hv⟩, hrest⟩ := List.forall_mem_cons.1 h
    obtain ⟨rest', hr⟩ := ih hrest
    exact ⟨(key, value') :: rest', by rw [coerceEntries_cons, hv, hr]⟩

/-- The entries as a value of the template's shape. A record that stays one keeps its own name, and
of the fields of a record that becomes a map the last of a name counts. -/
def withEntries (value template : Value) (entries : List (String × Value)) : Value :=
  match value, template with
  | .map _, .record name _ => .record name entries
  | .record name _, .record .. => .record name entries
  | .record .., .map _ => .ofEntries entries
  | _, _ => .map entries

/-- Between maps and records it is the entries that are coerced. -/
theorem coerce_of_entries? {value template : Value} {entries templates : List (String × Value)}
    (hv : value.entries? = some entries) (ht : template.entries? = some templates) :
    value.coerce template = (coerceEntries entries templates).map (value.withEntries template) := by
  rcases eq_map_or_record_of_entries? hv with rfl | ⟨own, rfl⟩ <;>
    rcases eq_map_or_record_of_entries? ht with rfl | ⟨name, rfl⟩ <;>
    rw [coerce] <;> cases coerceEntries entries templates <;> rfl

theorem equivEntries_iff {entries others : List (String × Value)} :
    equivEntries entries others = true ↔
      ∀ entry ∈ entries, ∃ other, Dictionary.find? entry.1 others = some other ∧
        entry.2.equiv other = true := by
  induction entries with
  | nil => simp [equivEntries]
  | cons entry rest ih =>
    obtain ⟨key, value⟩ := entry
    rw [equivEntries, Bool.and_eq_true, ih, List.forall_mem_cons]
    cases Dictionary.find? key others <;> simp

end Value

end HttpTest
