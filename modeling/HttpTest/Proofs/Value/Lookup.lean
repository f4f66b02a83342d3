import HttpTest.Proofs.Number.Numeral
import HttpTest.Proofs.Value.Json

/-!
# Dotted expressions

An expression takes a value apart name by name, so expressions with a dot between them are followed
one after the other (`Value.lookup?_append`), and what is reached through branches that are written
without dots is named by their texts with dots between them (`Value.lookup?_dotted`). A look-up does
not see whether the value has been written as a document and read back.
-/

namespace HttpTest

/-- A way from a composite value to one of its parts. -/
inductive Branch where
  | key (name : String)
  | field (name : String)
  | item (index : Nat)

namespace Branch

def text : Branch → List Char
  | .key name | .field name => name.toList
  | .item index => Number.natText index

/-- The name of the branch, if it has one, holds no dot. -/
def Undotted : Branch → Prop
  | .key name | .field name => '.' ∉ name.toList
  | .item _ => True

def dotted (branches : List Branch) : String :=
  String.ofList (Text.joinWith ['.'] (branches.map text))

theorem not_mem_text {branch : Branch} (h : branch.Undotted) : '.' ∉ branch.text := by
  cases branch with
  | key name => exact h
  | field name => exact h
  | item index =>
    intro hdot
    have hdigit := (Number.isDigits_natText index).2 '.' hdot
    cases hdigit

end Branch

namespace Value

open Branch (dotted)

/-- The second value is in the first one, at the end of some branches. A name stands for the first
of the fields that have it. -/
inductive Reaches : Value → List Branch → Value → Prop
  | here (value : Value) : Reaches value [] value
  | key {entries : List (String × Value)} {name : String} {part found : Value}
      {branches : List Branch} (hpart : (name, part) ∈ entries)
      (hrest : Reaches part branches found) :
      Reaches (.map entries) (.key name :: branches) found
  | field {before after : List (String × Value)} {own name : String} {part found : Value}
      {branches : List Branch} (hfirst : name ∉ Dictionary.keys before)
      (hrest : Reaches part branches found) :
      Reaches (.record own (before ++ (name, part) :: after)) (.field name :: branches) found
  | item {items : List Value} {index : Nat} {part found : Value} {branches : List Branch}
      (hpart : items[index]? = some part) (hrest : Reaches part branches found) :
      Reaches (.list items) (.item index :: branches) found

/-! ## Expressions one after the other -/

theorem follow?_append (value : Value) (names more : List (List Char)) :
    value.follow? (names ++ more) = (value.follow? names).bind (follow? · more) := by
  induction names generalizing value with
  | nil => rfl
  | cons name names ih =>
    rw [List.cons_append, follow?, follow?, Option.bind_assoc]
    exact congrArg _ (funext ih)

theorem lookup?_of_ne_empty {expression : String} (h : expression ≠ "") (value : Value) :
    value.lookup? expression = value.follow? (Text.splitAtChar '.' expression.toList) := by
  rw [lookup?, if_neg]
  rwa [String.isEmpty_iff]

/-- What is behind a dot is looked up in what is named before it. -/
theorem lookup?_append (value : Value) {x y : String} (hx : x ≠ "") (hy : y ≠ "") :
    value.lookup? (x ++ "." ++ y) = (value.lookup? x).bind (·.lookup? y) := by
  have hne : x ++ "." ++ y ≠ "" := by
    intro hempty
    exact hx (String.append_eq_empty_iff.1 (String.append_eq_empty_iff.1 hempty).1).1
  have htext : (x ++ "." ++ y).toList = x.toList ++ '.' :: y.toList := by
    simp
  rw [lookup?_of_ne_empty hne, lookup?_of_ne_empty hx, htext, Text.splitAtChar_append,
    follow?_append]
  exact congrArg _ (funext fun part => (lookup?_of_ne_empty hy part).symm)

/-! ## Branches as expressions -/

theorem wellFormed_of_mem_parts {value part : Value} (h : value.wellFormed = true)
    (hp : part ∈ value.parts) : part.wellFormed = true := by
  refine of_mem_parts (P := fun part => part.wellFormed = true) hp ?_ ?_
  · rintro items rfl
    rwa [wellFormed, itemsWellFormed_eq_all, List.all_eq_true] at h
  · intro entries he
    rcases eq_map_or_record_of_entries? he with rfl | ⟨name, rfl⟩
    · rw [wellFormed, entriesWellFormed_eq_all, Bool.and_eq_true, List.all_eq_true] at h
      exact h.2
    · rwa [wellFormed, entriesWellFormed_eq_all, List.all_eq_true] at h

theorem follow?_of_entry? {value part found : Value} {branch : Branch} {branches : List Branch}
    (hw : value.wellFormed = true) (hpart : value.entry? branch.text = some part)
    (hrest : part.wellFormed = true → part.follow? (branches.map Branch.text) = some found) :
    value.follow? ((branch :: branches).map Branch.text) = some found := by
  rw [List.map_cons, follow?, hpart, Option.bind_some]
  exact hrest (wellFormed_of_mem_parts hw (mem_parts_of_entry?_eq_some hpart))

theorem follow?_of_reaches {value found : Value} {branches : List Branch}
    (h : value.Reaches branches found) (hw : value.wellFormed = true) :
    value.follow? (branches.map Branch.text) = some found := by
  induction h with
  | here value => rfl
  | @key entries name part _ _ hpart _ ih =>
    refine follow?_of_entry? hw ?_ ih
    show Dictionary.find? (String.ofList name.toList) entries = some part
    rw [String.ofList_toList]
    exact Dictionary.find?_eq_some_of_mem (sorted_of_wellFormed hw).nodup_keys hpart
  | @field before after own name part _ _ hfirst _ ih =>
    refine follow?_of_entry? hw ?_ ih
    show Dictionary.find? (String.ofList name.toList) (before ++ (name, part) :: after) = some part
    rw [String.ofList_toList, Dictionary.find?_append,
      (Dictionary.find?_eq_none_iff name before).2 hfirst, Dictionary.find?_cons, if_pos rfl]
    rfl
  | @item items index part _ _ hpart _ ih =>
    refine follow?_of_entry? hw ?_ ih
    show (Number.readUnsigned? (Number.natText index)).bind (fun i => items[i]?) = some part
    rw [Number.readUnsigned?_natText]
    exact hpart

/-- What is reached through branches is named by their texts, with dots between them. -/
theorem lookup?_dotted {value found : Value} {branches : List Branch} (hw : value.wellFormed = true)
    (h : value.Reaches branches found) (hbranches : ∀ branch ∈ branches, branch.Undotted)
    (hne : dotted branches ≠ "") : value.lookup? (dotted branches) = some found := by
  have hsome : branches.map Branch.text ≠ [] := by
    intro hnil
    rw [dotted, hnil] at hne
    exact hne rfl
  have hdots : ∀ text ∈ branches.map Branch.text, '.' ∉ text :=
    List.forall_mem_map.2 fun branch hbranch => Branch.not_mem_text (hbranches branch hbranch)
  rw [lookup?_of_ne_empty hne, dotted, String.toList_ofList,
    Text.splitAtChar_joinWith hsome hdots]
  exact follow?_of_reaches h hw

/-- How expressions name what is in a value. Two of them with a dot between them are looked up one
in what the other names; the texts of branches, with dots between them, name what the branches
reach; and what an expression names in the document of a value, read back, is the document of what
it names in the value, read back. -/
theorem lookup?_follows_branches (value : Value) :
    (∀ x y : String, x ≠ "" → y ≠ "" →
      value.lookup? (x ++ "." ++ y) = (value.lookup? x).bind (·.lookup? y)) ∧
    (value.wellFormed = true → ∀ (branches : List Branch) (found : Value),
      value.Reaches branches found → (∀ branch ∈ branches, branch.Undotted) → dotted branches ≠ "" →
      value.lookup? (dotted branches) = some found) ∧
    (value.Regular → ∀ x : String,
      value.toJson.toValue.lookup? x = (value.lookup? x).map fun found => found.toJson.toValue) :=
  ⟨fun _ _ hx hy => lookup?_append value hx hy,
    fun hw _ _ hreaches hbranches hne => lookup?_dotted hw hreaches hbranches hne,
    fun hregular => lookup?_normal hregular⟩

/-- The last item of a list in a record, under a name that is empty, in the three ways. -/
theorem lookup?_follows_branches_of_line :
    let line := Value.record "Line" [("tags", .list [.null, .string "b.c"]), ("id", .int 7)]
    let order := Value.map [("", line), ("a.b", .null)]
    let branches := [Branch.key "", .field "tags", .item 1]
    order.wellFormed = true ∧ order.Regular ∧ order.Reaches branches (.string "b.c") ∧
    dotted branches = ".tags.1" ∧ order.lookup? ".tags.1" = some (.string "b.c") ∧
    order.lookup? ".tags.1" = (order.lookup? ".tags").bind (·.lookup? "1") ∧
    order.toJson.toValue.lookup? ".tags" = some (.list [.null, .string "b.c"]) := by
  intro line order branches
  have hregular : order.Regular := by decide
  have hreaches : order.Reaches branches (.string "b.c") :=
    .key List.mem_cons_self (@Reaches.field [] _ _ _ _ _ _ List.not_mem_nil (.item rfl (.here _)))
  have hundotted : ∀ branch ∈ branches, branch.Undotted := by
    simp [branches, Branch.Undotted]
  have hdotted : dotted branches = ".tags.1" := by decide
  obtain ⟨happend, hbranches, hdocument⟩ := lookup?_follows_branches order
  have hnonempty : dotted branches ≠ "" := by
    rw [hdotted]
    decide
  have hfound := hbranches hregular.wellFormed branches _ hreaches hundotted hnonempty
  rw [hdotted] at hfound
  refine ⟨hregular.wellFormed, hregular, hreaches, hdotted, hfound,
    happend ".tags" "1" (by decide) (by decide), ?_⟩
  have hlist : order.lookup? ".tags" = some (.list [.null, .string "b.c"]) := by decide
  rw [hdocument hregular ".tags", hlist]
  rfl

end Value

end HttpTest
