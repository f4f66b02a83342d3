/-!
# Dictionaries

A dictionary with string keys is a list of entries in ascending order of their keys, each key once.
The operations keep that order; `Sorted` states it. A dictionary is known by what its keys are bound
to (`eq_of_find?_eq`).
-/

namespace HttpTest.Dictionary

variable {α β : Type}

/-- The value of the first entry with a key. -/
def find? (key : String) : List (String × α) → Option α
  | [] => none
  | (k, value) :: rest => if k = key then some value else find? key rest

/-- The entries with `key` bound to `value`, replacing what it was bound to before. -/
def insert (key : String) (value : α) : List (String × α) → List (String × α)
  | [] => [(key, value)]
  | (k, v) :: rest =>
    if key = k then (key, value) :: rest
    else if key < k then (key, value) :: (k, v) :: rest
    else (k, v) :: insert key value rest

/-- The dictionary of a list of entries in any order; of two entries with one key the later counts.
-/
def ofList (entries : List (String × α)) : List (String × α) :=
  entries.foldl (fun dictionary (key, value) => insert key value dictionary) []

def keys (entries : List (String × α)) : List String := entries.map Prod.fst

/-- The keys ascend, so that no key occurs twice. -/
def Sorted (entries : List (String × α)) : Prop := (keys entries).Pairwise (· < ·)

instance (entries : List (String × α)) : Decidable (Sorted entries) :=
  inferInstanceAs (Decidable (List.Pairwise _ _))

def mapValues (f : α → β) (entries : List (String × α)) : List (String × β) :=
  entries.map fun (key, value) => (key, f value)

/-! ### Looking up what was inserted -/

@[simp] theorem find?_nil (key : String) : find? key ([] : List (String × α)) = none := rfl

@[simp] theorem find?_cons (key k : String) (value : α) (rest : List (String × α)) :
    find? key ((k, value) :: rest) = if k = key then some value else find? key rest := rfl

/-- After an insertion the key has the new value and every other key the value it had. -/
theorem find?_insert (key other : String) (value : α) (entries : List (String × α)) :
    find? other (insert key value entries) =
      if key = other then some value else find? other entries := by
  induction entries with
  | nil => rfl
  | cons entry rest ih =>
    obtain ⟨k, v⟩ := entry
    unfold insert
    by_cases h : key = k
    · subst h
      simp only [if_true, find?_cons]
      split <;> rfl
    · simp only [h, if_false]
      split
      · rfl
      · simp only [find?_cons, ih]
        by_cases hk : k = other
        · subst hk
          simp [h]
        · simp [hk]

theorem mem_keys_insert (k key : String) (value : α) (entries : List (String × α)) :
    k ∈ keys (insert key value entries) ↔ k = key ∨ k ∈ keys entries := by
  induction entries with
  | nil => simp [insert, keys]
  | cons entry rest ih =>
    obtain ⟨l, v⟩ := entry
    simp only [keys, List.map_cons, List.mem_cons] at ih ⊢
    unfold insert
    by_cases h : key = l
    · subst h
      simp
    · simp only [h, if_false]
      split
      · simp
      · simp only [List.map_cons, List.mem_cons, ih]
        constructor
        · rintro (h | h | h) <;> simp [h]
        · rintro (h | h | h) <;> simp [h]

theorem sorted_insert (key : String) (value : α) {entries : List (String × α)}
    (h : Sorted entries) : Sorted (insert key value entries) := by
  induction entries with
  | nil => simp [insert, Sorted, keys]
  | cons entry rest ih =>
    obtain ⟨k, v⟩ := entry
    have hk : ∀ l ∈ keys rest, k < l := (List.pairwise_cons.1 h).1
    have hrest : Sorted rest := List.Pairwise.of_cons h
    unfold insert
    by_cases he : key = k
    · subst he
      simp only [if_true]
      exact List.pairwise_cons.2 ⟨hk, hrest⟩
    · simp only [he, if_false]
      split
      · rename_i hlt
        refine List.pairwise_cons.2 ⟨?_, h⟩
        intro l hl
        rcases List.mem_cons.1 hl with rfl | hl
        · exact hlt
        · exact String.lt_trans hlt (hk l hl)
      · rename_i hlt
        refine List.pairwise_cons.2 ⟨?_, ih hrest⟩
        intro l hl
        rcases (mem_keys_insert l key value rest).1 hl with rfl | hl
        · exact Std.lt_of_le_of_ne (String.not_lt.1 hlt) (Ne.symm he)
        · exact hk l hl

theorem sorted_foldl_insert (entries : List (String × α)) {dictionary : List (String × α)}
    (h : Sorted dictionary) :
    Sorted (entries.foldl (fun dictionary (key, value) => insert key value dictionary)
      dictionary) := by
  induction entries generalizing dictionary with
  | nil => exact h
  | cons entry rest ih => exact ih (sorted_insert _ _ h)

/-- What `ofList` builds is a dictionary. -/
theorem sorted_ofList (entries : List (String × α)) : Sorted (ofList entries) :=
  sorted_foldl_insert entries List.Pairwise.nil

theorem find?_append (key : String) (first second : List (String × α)) :
    find? key (first ++ second) = (find? key first).or (find? key second) := by
  induction first with
  | nil => rfl
  | cons entry rest ih =>
    obtain ⟨k, v⟩ := entry
    simp only [List.cons_append, find?_cons, ih]
    split <;> rfl

/-- Of two entries with one key the later counts. -/
theorem find?_ofList (key : String) (entries : List (String × α)) :
    find? key (ofList entries) = find? key entries.reverse := by
  suffices ∀ dictionary : List (String × α),
      find? key (entries.foldl (fun dictionary (k, value) => insert k value dictionary) dictionary)
        = (find? key entries.reverse).or (find? key dictionary) by
    simpa [ofList] using this []
  induction entries with
  | nil => intro dictionary; rfl
  | cons entry rest ih =>
    intro dictionary
    obtain ⟨k, v⟩ := entry
    simp only [List.foldl_cons, ih, find?_insert, List.reverse_cons, find?_append, find?_cons,
      find?_nil]
    split <;> cases find? key rest.reverse <;> rfl

@[simp] theorem keys_mapValues (f : α → β) (entries : List (String × α)) :
    keys (mapValues f entries) = keys entries := by
  simp [keys, mapValues, Function.comp_def]

theorem find?_eq_none_iff (key : String) (entries : List (String × α)) :
    find? key entries = none ↔ key ∉ keys entries := by
  induction entries with
  | nil => simp [keys]
  | cons entry rest ih =>
    obtain ⟨k, v⟩ := entry
    simp only [find?_cons, keys, List.map_cons, List.mem_cons, not_or] at ih ⊢
    by_cases h : k = key
    · simp [h]
    · simp [h, ih, Ne.symm h]

/-- A dictionary is known by what its keys are bound to. -/
theorem eq_of_find?_eq {left right : List (String × α)} (hl : Sorted left) (hr : Sorted right)
    (h : ∀ key, find? key left = find? key right) : left = right := by
  induction left generalizing right with
  | nil =>
    cases right with
    | nil => rfl
    | cons other others =>
      have hnone := h other.1
      obtain ⟨l, w⟩ := other
      simp at hnone
  | cons entry rest ih =>
    obtain ⟨k, v⟩ := entry
    obtain ⟨hk, hrest⟩ := List.pairwise_cons.1 hl
    cases right with
    | nil =>
      have hnone := h k
      simp at hnone
    | cons other others =>
      obtain ⟨l, w⟩ := other
      obtain ⟨hlt, hothers⟩ := List.pairwise_cons.1 hr
      have hmem : ∀ {key : String},
          key ∈ keys ((k, v) :: rest) ↔ key ∈ keys ((l, w) :: others) := by
        intro key
        exact Decidable.not_iff_not.1 (by rw [← find?_eq_none_iff, ← find?_eq_none_iff, h key])
      have heq : k = l := by
        rcases List.mem_cons.1 (hmem.1 (List.mem_cons_self)) with e | hin
        · exact e
        · rcases List.mem_cons.1 (hmem.2 (List.mem_cons_self)) with e | hin'
          · exact e.symm
          · exact absurd (hk l hin') (String.lt_asymm (hlt k hin))
      subst heq
      have hv : v = w := by simpa using h k
      subst hv
      have htail : ∀ key, find? key rest = find? key others := by
        intro key
        by_cases e : k = key
        · subst e
          rw [(find?_eq_none_iff k rest).2 fun hin => String.lt_irrefl _ (hk k hin),
            (find?_eq_none_iff k others).2 fun hin => String.lt_irrefl _ (hlt k hin)]
        · simpa [e] using h key
      rw [ih hrest hothers htail]

end HttpTest.Dictionary
