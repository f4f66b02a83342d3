import Mathlib.Data.List.Perm.Subperm
import Mathlib.Data.List.Nodup
import HttpTest.Dictionary

/-!
# Entries with distinct keys

Where no key is repeated, looking a key up and being an entry are the same thing, so the order of
the entries does not matter: `find?_eq_of_perm`, and `perm_ofList` for the dictionary made of them.
Whether two lists of such entries have the same keys is settled by one inclusion and a count
(`sameKeys_of_length_eq`).
-/

namespace HttpTest.Dictionary

variable {α β : Type}

theorem mem_of_find?_eq_some {key : String} {value : α} {entries : List (String × α)}
    (h : find? key entries = some value) : (key, value) ∈ entries := by
  induction entries with
  | nil => cases h
  | cons entry rest ih =>
    obtain ⟨k, v⟩ := entry
    rw [find?_cons] at h
    split at h
    · rename_i hk
      cases h
      rw [hk]
      exact List.mem_cons_self
    · exact List.mem_cons_of_mem _ (ih h)

theorem mem_keys_of_mem {key : String} {value : α} {entries : List (String × α)}
    (h : (key, value) ∈ entries) : key ∈ keys entries :=
  List.mem_map.2 ⟨(key, value), h, rfl⟩

theorem exists_find?_of_mem_keys {key : String} {entries : List (String × α)}
    (h : key ∈ keys entries) : ∃ value, find? key entries = some value := by
  cases hf : find? key entries with
  | some value => exact ⟨value, rfl⟩
  | none => exact absurd h ((find?_eq_none_iff key entries).1 hf)

theorem mem_keys_of_find? {key : String} {value : α} {entries : List (String × α)}
    (h : find? key entries = some value) : key ∈ keys entries :=
  mem_keys_of_mem (mem_of_find?_eq_some h)

theorem find?_eq_some_of_mem {key : String} {value : α} {entries : List (String × α)}
    (hn : (keys entries).Nodup) (h : (key, value) ∈ entries) :
    find? key entries = some value := by
  induction entries with
  | nil => cases h
  | cons entry rest ih =>
    obtain ⟨k, v⟩ := entry
    obtain ⟨hk, hrest⟩ := List.nodup_cons.1 hn
    rw [find?_cons]
    rcases List.mem_cons.1 h with heq | hmem
    · cases heq
      exact if_pos rfl
    · -- the first key is another one, for the key occurs among the rest
      have hne : k ≠ key := by
        intro e
        subst e
        exact hk (mem_keys_of_mem hmem)
      rw [if_neg hne]
      exact ih hrest hmem

/-- Among distinct keys the first entry of a key is the only one. -/
theorem find?_eq_some_iff_mem {key : String} {value : α} {entries : List (String × α)}
    (hn : (keys entries).Nodup) : find? key entries = some value ↔ (key, value) ∈ entries :=
  ⟨mem_of_find?_eq_some, find?_eq_some_of_mem hn⟩

theorem find?_eq_of_perm {left right : List (String × α)} (hn : (keys left).Nodup)
    (hp : left.Perm right) (key : String) : find? key left = find? key right := by
  have hn' : (keys right).Nodup := (hp.map Prod.fst).nodup_iff.1 hn
  refine Option.ext fun value => ?_
  rw [find?_eq_some_iff_mem hn, find?_eq_some_iff_mem hn', hp.mem_iff]

/-! ### The dictionary of a list of entries -/

theorem Sorted.nodup_keys {entries : List (String × α)} (h : Sorted entries) :
    (keys entries).Nodup :=
  List.Pairwise.imp (fun hlt => by rintro rfl; exact String.lt_irrefl _ hlt) h

theorem perm_insert_of_not_mem {key : String} (value : α) {entries : List (String × α)}
    (h : key ∉ keys entries) : (insert key value entries).Perm ((key, value) :: entries) := by
  induction entries with
  | nil => exact List.Perm.refl _
  | cons entry rest ih =>
    obtain ⟨k, v⟩ := entry
    obtain ⟨hne, hrest⟩ : key ≠ k ∧ key ∉ keys rest := by
      simpa only [keys, List.map_cons, List.mem_cons, not_or] using h
    unfold insert
    rw [if_neg hne]
    split
    · exact List.Perm.refl _
    · exact ((ih hrest).cons (k, v)).trans (List.Perm.swap _ _ _)

theorem perm_foldl_insert (entries : List (String × α)) {dictionary : List (String × α)}
    (h : (keys (dictionary ++ entries)).Nodup) :
    (entries.foldl (fun dictionary (key, value) => insert key value dictionary) dictionary).Perm
      (dictionary ++ entries) := by
  induction entries generalizing dictionary with
  | nil => simp
  | cons entry rest ih =>
    obtain ⟨k, v⟩ := entry
    -- the entry moves from the head of what is left to what is built
    have hmove : (dictionary ++ (k, v) :: rest).Perm ((k, v) :: (dictionary ++ rest)) :=
      List.perm_middle
    have hn : (keys ((k, v) :: (dictionary ++ rest))).Nodup := (hmove.map Prod.fst).nodup_iff.1 h
    have hk : k ∉ keys dictionary := by
      intro hmem
      refine (List.nodup_cons.1 hn).1 ?_
      simpa only [keys, List.map_append] using List.mem_append_left _ hmem
    have hinsert := (perm_insert_of_not_mem v hk).append_right rest
    exact (ih ((hinsert.map Prod.fst).nodup_iff.2 hn)).trans (hinsert.trans hmove.symm)

/-- Entries with distinct keys are the entries of their dictionary. -/
theorem perm_ofList {entries : List (String × α)} (hn : (keys entries).Nodup) :
    (ofList entries).Perm entries :=
  perm_foldl_insert entries hn

theorem mem_of_mem_ofList {entry : String × α} {entries : List (String × α)}
    (h : entry ∈ ofList entries) : entry ∈ entries := by
  have hfound := find?_eq_some_of_mem (sorted_ofList entries).nodup_keys h
  rw [find?_ofList] at hfound
  exact List.mem_reverse.1 (mem_of_find?_eq_some hfound)

/-! ### Values replaced -/

theorem find?_mapValues (f : α → β) (key : String) (entries : List (String × α)) :
    find? key (mapValues f entries) = (find? key entries).map f := by
  induction entries with
  | nil => rfl
  | cons entry rest ih =>
    obtain ⟨k, v⟩ := entry
    show find? key ((k, f v) :: mapValues f rest) = _
    rw [find?_cons, find?_cons, ih]
    split <;> rfl

theorem mapValues_mapValues {γ : Type} (f : α → β) (g : β → γ) (entries : List (String × α)) :
    mapValues g (mapValues f entries) = mapValues (g ∘ f) entries :=
  List.map_map

theorem mapValues_ofList (f : α → β) (entries : List (String × α)) :
    mapValues f (ofList entries) = ofList (mapValues f entries) := by
  have hsorted : Sorted (mapValues f (ofList entries)) := by
    rw [Sorted, keys_mapValues]
    exact sorted_ofList entries
  refine eq_of_find?_eq hsorted (sorted_ofList _) fun key => ?_
  have hreverse : (mapValues f entries).reverse = mapValues f entries.reverse :=
    List.map_reverse.symm
  rw [find?_mapValues, find?_ofList, find?_ofList, hreverse, find?_mapValues]

theorem find?_ofList_of_nodup {entries : List (String × α)} (hn : (keys entries).Nodup)
    (key : String) : find? key (ofList entries) = find? key entries :=
  (find?_eq_of_perm hn (perm_ofList hn).symm key).symm

/-! ### The same keys -/

def SameKeys (left : List (String × α)) (right : List (String × β)) : Prop :=
  keys left ⊆ keys right ∧ keys right ⊆ keys left

instance (left : List (String × α)) (right : List (String × β)) : Decidable (SameKeys left right) :=
  inferInstanceAs (Decidable (_ ∧ _))

theorem sameKeys_of_find?_eq_none_iff {left : List (String × α)} {right : List (String × β)}
    (h : ∀ key, find? key left = none ↔ find? key right = none) : SameKeys left right := by
  have hiff : ∀ key, key ∈ keys left ↔ key ∈ keys right := by
    intro key
    apply Decidable.not_iff_not.1
    rw [← find?_eq_none_iff, ← find?_eq_none_iff, h]
  exact ⟨fun key => (hiff key).1, fun key => (hiff key).2⟩

theorem sameKeys_ofList (entries : List (String × α)) : SameKeys (ofList entries) entries := by
  apply sameKeys_of_find?_eq_none_iff
  intro key
  rw [find?_ofList, find?_eq_none_iff, find?_eq_none_iff, keys, List.map_reverse, List.mem_reverse,
    keys]

theorem SameKeys.symm {left : List (String × α)} {right : List (String × β)}
    (h : SameKeys left right) : SameKeys right left :=
  ⟨h.2, h.1⟩

theorem SameKeys.trans {γ : Type} {left : List (String × α)} {middle : List (String × β)}
    {right : List (String × γ)} (h : SameKeys left middle) (h' : SameKeys middle right) :
    SameKeys left right :=
  ⟨List.Subset.trans h.1 h'.1, List.Subset.trans h'.2 h.2⟩

theorem length_keys (entries : List (String × α)) : (keys entries).length = entries.length :=
  List.length_map _

/-- Distinct keys that are all found among no more keys are all of them. -/
theorem sameKeys_of_length_eq {left : List (String × α)} {right : List (String × β)}
    (hn : (keys left).Nodup) (hsub : keys left ⊆ keys right) (hl : left.length = right.length) :
    SameKeys left right := by
  have hle : (keys right).length ≤ (keys left).length := by
    rw [length_keys, length_keys]
    omega
  have hp : (keys left).Perm (keys right) :=
    (List.Nodup.subperm hn hsub).perm_of_length_le hle
  exact ⟨hsub, hp.symm.subset⟩

theorem SameKeys.length_eq {left : List (String × α)} {right : List (String × β)}
    (h : SameKeys left right) (hl : (keys left).Nodup) (hr : (keys right).Nodup) :
    left.length = right.length := by
  have hp : (keys left).Perm (keys right) :=
    (List.perm_ext_iff_of_nodup hl hr).2 fun _ => ⟨fun hk => h.1 hk, fun hk => h.2 hk⟩
  rw [← length_keys left, ← length_keys right, hp.length_eq]

end HttpTest.Dictionary
