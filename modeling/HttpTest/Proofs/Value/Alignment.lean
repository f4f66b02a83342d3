import HttpTest.Proofs.Value.Structure

/-!
# Parts at the same place

Coercion and comparison go through a value and a template side by side. `Value.aligned` lists the
pairs they meet.
-/

namespace HttpTest.Value

open Dictionary (SameKeys)

mutual

/-- The pairs of parts of a value and a template at the same place, outermost first: the items at
one position of two lists, and the entries of maps and records with the template of their name. -/
def aligned : (value template : Value) → List (Value × Value)
  | .list items, .list templates =>
      (.list items, .list templates) :: alignedItems items templates
  | .map entries, .map templates =>
      (.map entries, .map templates) :: alignedEntries entries templates
  | .map entries, .record name templates =>
      (.map entries, .record name templates) :: alignedEntries entries templates
  | .record name entries, .map templates =>
      (.record name entries, .map templates) :: alignedEntries entries templates
  | .record name entries, .record other templates =>
      (.record name entries, .record other templates) :: alignedEntries entries templates
  | value, template => [(value, template)]

def alignedItems : (items templates : List Value) → List (Value × Value)
  | item :: items, template :: templates => aligned item template ++ alignedItems items templates
  | _, _ => []

def alignedEntries : (entries templates : List (String × Value)) → List (Value × Value)
  | [], _ => []
  | (key, value) :: entries, templates =>
      (match Dictionary.find? key templates with
        | some template => aligned value template
        | none => []) ++ alignedEntries entries templates

end

/-- The two values do not differ in how many items they have or in the names of their entries. -/
structure SameExtent (value template : Value) : Prop where
  length_eq : ∀ {items templates : List Value}, value = .list items → template = .list templates →
    items.length = templates.length
  sameKeys : ∀ {entries templates : List (String × Value)}, value.entries? = some entries →
    template.entries? = some templates → SameKeys entries templates

theorem aligned_of_entries? {value template : Value} {entries templates : List (String × Value)}
    (hv : value.entries? = some entries) (ht : template.entries? = some templates) :
    value.aligned template = (value, template) :: alignedEntries entries templates := by
  rcases eq_map_or_record_of_entries? hv with rfl | ⟨other, rfl⟩ <;>
    rcases eq_map_or_record_of_entries? ht with rfl | ⟨name, rfl⟩ <;> rw [aligned]

theorem aligned_of_scalar (value : Value) {template : Value}
    (h : template.kind.isComposite = false) : value.aligned template = [(value, template)] := by
  rw [aligned]
  all_goals
    intros
    subst_vars
    cases h

def alignedAt (value : Value) : (template? : Option Value) → List (Value × Value)
  | some template => value.aligned template
  | none => []

theorem alignedEntries_cons (key : String) (value : Value)
    (entries templates : List (String × Value)) :
    alignedEntries ((key, value) :: entries) templates
      = value.alignedAt (Dictionary.find? key templates) ++ alignedEntries entries templates := by
  rw [alignedEntries]
  cases Dictionary.find? key templates <;> rfl

theorem forall_mem_alignedEntries {P : Value × Value → Prop}
    {entries templates : List (String × Value)} :
    (∀ pair ∈ alignedEntries entries templates, P pair) ↔
      ∀ entry ∈ entries, ∀ template, Dictionary.find? entry.1 templates = some template →
        ∀ pair ∈ entry.2.aligned template, P pair := by
  induction entries with
  | nil => exact iff_of_true (List.forall_mem_nil _) (List.forall_mem_nil _)
  | cons entry rest ih =>
    obtain ⟨key, value⟩ := entry
    rw [alignedEntries_cons, List.forall_mem_append, List.forall_mem_cons, ih]
    cases Dictionary.find? key templates <;> simp [alignedAt]

/-! ### The other way round -/

theorem aligned_cases (left right : Value) :
    (∃ items others, left = .list items ∧ right = .list others) ∨
    (∃ entries others, left.entries? = some entries ∧ right.entries? = some others) ∨
    left.aligned right = [(left, right)] ∧ right.aligned left = [(right, left)] := by
  cases left <;> cases right
  all_goals first
    | exact .inr (.inr ⟨rfl, rfl⟩)
    | exact .inr (.inl ⟨_, _, rfl, rfl⟩)
    | exact .inl ⟨_, _, rfl, rfl⟩

/-- The pairs met from one side are those met from the other side. -/
def AlignedSwap (right : Value) : Prop :=
  ∀ (left : Value) (P : Value × Value → Prop), right.Regular →
    (∀ pair ∈ left.aligned right, P pair) → ∀ pair ∈ right.aligned left, P pair.swap

theorem alignedItems_swap {items others : List Value} (P : Value × Value → Prop)
    (ho : ∀ other ∈ others, other.Regular) (ih : ∀ other ∈ others, other.AlignedSwap)
    (h : ∀ pair ∈ alignedItems items others, P pair) :
    ∀ pair ∈ alignedItems others items, P pair.swap := by
  induction others generalizing items with
  | nil => exact List.forall_mem_nil _
  | cons other others ihs =>
    cases items with
    | nil => exact List.forall_mem_nil _
    | cons item items =>
      obtain ⟨hother, hothers⟩ := List.forall_mem_cons.1 ho
      obtain ⟨hhead, htail⟩ := List.forall_mem_cons.1 ih
      rw [alignedItems, List.forall_mem_append] at h ⊢
      exact ⟨hhead item P hother h.1, ihs hothers htail h.2⟩

theorem alignedEntries_swap {entries others : List (String × Value)} (P : Value × Value → Prop)
    (hn : (Dictionary.keys others).Nodup) (ho : ∀ other ∈ others, other.2.Regular)
    (ih : ∀ other ∈ others, other.2.AlignedSwap)
    (h : ∀ pair ∈ alignedEntries entries others, P pair) :
    ∀ pair ∈ alignedEntries others entries, P pair.swap := by
  rw [forall_mem_alignedEntries] at h
  refine (forall_mem_alignedEntries (P := fun pair => P pair.swap)).2 ?_
  intro other hm value hf
  apply ih other hm value P (ho other hm)
  -- among distinct names the entry is found under its own
  exact h _ (Dictionary.mem_of_find?_eq_some hf) _ (Dictionary.find?_eq_some_of_mem hn hm)

theorem alignedSwap_of_parts {right : Value}
    (hlist : ∀ others, right = .list others → ∀ other ∈ others, other.AlignedSwap)
    (hentries : ∀ others, right.entries? = some others → ∀ other ∈ others, other.2.AlignedSwap) :
    right.AlignedSwap := by
  intro left P hr h
  rcases aligned_cases left right with
    ⟨items, others, rfl, rfl⟩ | ⟨entries, others, hl, ho⟩ | ⟨hl, ho⟩
  · rw [aligned, List.forall_mem_cons] at h ⊢
    have hothers : ∀ other ∈ others, other.Regular := fun other hm => hr.of_mem_items hm
    exact ⟨h.1, alignedItems_swap P hothers (hlist others rfl) h.2⟩
  · rw [aligned_of_entries? hl ho, List.forall_mem_cons] at h
    rw [aligned_of_entries? ho hl, List.forall_mem_cons]
    obtain ⟨hn, hothers⟩ := hr.of_entries? ho
    exact ⟨h.1, alignedEntries_swap P hn hothers (hentries others ho) h.2⟩
  · rw [hl, List.forall_mem_singleton] at h
    rw [ho, List.forall_mem_singleton]
    exact h

theorem alignedSwap (right : Value) : right.AlignedSwap := by
  induction right using Value.induction with
  | scalar right hs =>
    apply alignedSwap_of_parts
    · rintro others rfl
      cases hs
    · intro others ho
      rcases eq_map_or_record_of_entries? ho with rfl | ⟨name, rfl⟩ <;> cases hs
  | list others ih =>
    apply alignedSwap_of_parts
    · rintro _ ⟨⟩
      exact ih
    · rintro _ ⟨⟩
  | map others ih =>
    apply alignedSwap_of_parts
    · rintro _ ⟨⟩
    · rintro _ ⟨⟩
      exact ih
  | record name others ih =>
    apply alignedSwap_of_parts
    · rintro _ ⟨⟩
    · rintro _ ⟨⟩
      exact ih

end HttpTest.Value
