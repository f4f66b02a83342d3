import HttpTest.Comparison
import HttpTest.Proofs.Text.Difference
import HttpTest.Proofs.Value.Counterparts
import HttpTest.Proofs.Value.Throughout

/-!
# What a difference of values says

Strings and keys are quoted and numbers hold no line break, so the expanded text of a value without
records is `Lined` (`lined_expandedAt`): only the names of a record could break its lines. Coercion
between values without records makes none (`recordFree_coerce`), and so the difference that comes
with a mismatch says line by line what was expected and what was there.
-/

namespace HttpTest

/-! ## Numbers in one line -/

namespace Number

open Text (IsLine Unbroken unbroken_append unbroken_cons unbroken_replicate)

theorem isLine_natText (n : Nat) : IsLine (natText n) :=
  ⟨Nat.toDigits_ne_nil, Text.unbroken_toDigits (by decide) n⟩

theorem isLine_intText (i : Int) : IsLine (intText i) := by
  unfold intText
  split
  · exact (isLine_natText _).prepend (show Unbroken ['-'] by decide)
  · exact isLine_natText _

variable {layout : FloatLayout} {digits : List Char}

theorem isLine_positionalText (h : IsLine digits) (exponent : Int) :
    IsLine (positionalText layout digits exponent) := by
  have hzeros : ∀ n : Nat, Unbroken (List.replicate n '0') := unbroken_replicate (by decide)
  unfold positionalText
  split
  · refine (h.append (hzeros _)).append ?_
    split <;> decide
  · have hpadded : ∀ n : Nat, Unbroken (List.replicate n '0' ++ digits) := fun n =>
      (h.prepend (hzeros n)).unbroken
    refine ⟨List.append_ne_nil_of_right_ne_nil _ (List.cons_ne_nil _ _), ?_⟩
    exact unbroken_append.2 ⟨(hpadded _).of_subset (List.take_subset _ _),
      unbroken_cons.2 ⟨by decide, (hpadded _).of_subset (List.drop_subset _ _)⟩⟩

theorem isLine_scientificText (h : IsLine digits) (place : Int) :
    IsLine (scientificText layout digits place) := by
  have hpart : ∀ part : List Char, part ⊆ digits → Unbroken part := fun _ => h.unbroken.of_subset
  unfold scientificText
  refine (isLine_natText _).prepend (unbroken_append.2 ⟨unbroken_append.2 ⟨?_, ?_⟩, ?_⟩)
  · exact hpart _ (List.take_subset 1 digits)
  · split
    · decide
    · exact unbroken_cons.2 ⟨by decide, hpart _ fun _ => List.mem_of_mem_tail⟩
  · refine unbroken_cons.2 ⟨by decide, ?_⟩
    split_ifs <;> decide

theorem isLine_binary64Text (x : Binary64) (layout : FloatLayout) : IsLine (x.text layout) := by
  cases x with
  | nan => exact (by decide : IsLine ['N', 'a', 'N'])
  | infinite negative =>
    cases negative with
    | false => exact (by decide : IsLine ['i', 'n', 'f'])
    | true => exact (by decide : IsLine ['-', 'i', 'n', 'f'])
  | finite negative mantissa exponent _ =>
    have hsign : Unbroken (if negative then ['-'] else []) := by cases negative <;> decide
    refine IsLine.prepend ?_ hsign
    split
    · split <;> decide
    · unfold Decimal.text
      dsimp only
      split
      · exact isLine_positionalText (isLine_natText _) _
      · exact isLine_scientificText (isLine_natText _) _

end Number

namespace Value

open Text (Lined IsLine Unbroken lines side isLine_quoted)

/-! ## The expanded text -/

theorem isLine_compact_of_scalar {value : Value} (h : value.kind.isComposite = false) :
    IsLine value.compact := by
  cases value with
  | null => exact (by decide : IsLine ['n', 'u', 'l', 'l'])
  | bool b =>
    cases b with
    | false => exact (by decide : IsLine ['f', 'a', 'l', 's', 'e'])
    | true => exact (by decide : IsLine ['t', 'r', 'u', 'e'])
  | int i => exact Number.isLine_intText i.toInt
  | float x => exact Number.isLine_binary64Text x .exact
  | string s => exact isLine_quoted s
  | list items => cases h
  | map entries => cases h
  | record name fields => cases h

theorem expandedAt_of_scalar {value : Value} (h : value.kind.isComposite = false) (depth : Nat) :
    expandedAt depth value = value.compact := by
  cases value with
  | list items => cases h
  | map entries => cases h
  | record name fields => cases h
  | _ => rfl

theorem expandedItems_eq_flatMap (depth : Nat) (items : List Value) :
    expandedItems depth items = (items.map fun item =>
      indentation depth ++ expandedAt depth item).flatMap ([',', '\n'] ++ ·) := by
  induction items with
  | nil => rfl
  | cons item items ih => simp [expandedItems, ih]

def expandedEntry (depth : Nat) (entry : String × Value) : List Char :=
  indentation depth ++ Text.quoted entry.1 ++ [':', ' '] ++ expandedAt depth entry.2

theorem expandedEntries_eq_flatMap (depth : Nat) (entries : List (String × Value)) :
    expandedEntries depth entries
      = (entries.map (expandedEntry depth)).flatMap ([',', '\n'] ++ ·) := by
  induction entries with
  | nil => rfl
  | cons entry entries ih => simp [expandedEntries, expandedEntry, ih]

theorem unbroken_indentation (depth : Nat) : Unbroken (indentation depth) :=
  Text.unbroken_replicate (by decide) _

theorem lined_expandedEntry {depth : Nat} {entry : String × Value}
    (h : Lined (expandedAt depth entry.2)) : Lined (expandedEntry depth entry) := by
  refine h.prepend (Text.unbroken_append.2 ⟨Text.unbroken_append.2 ⟨?_, ?_⟩, ?_⟩)
  · exact unbroken_indentation depth
  · exact (isLine_quoted entry.1).unbroken
  · decide

theorem lined_bracketedParts {first : List Char} {parts : List (List Char)}
    {opening closing : Char} (hfirst : Lined first) (h : ∀ part ∈ parts, Lined part)
    (hopening : IsLine [opening]) (hclosing : IsLine [closing]) (depth : Nat) :
    Lined ([opening] ++ '\n' :: (first ++ parts.flatMap ([',', '\n'] ++ ·))
      ++ '\n' :: (indentation depth ++ [closing])) :=
  (hfirst.append_parts h).bracketed hopening (hclosing.prepend (unbroken_indentation depth))

/-- The expanded text of a value without records has neither empty lines nor line breaks within a
line. -/
theorem lined_expandedAt {value : Value} (h : value.recordFree = true) (depth : Nat) :
    Lined (expandedAt depth value) := by
  induction value using Value.induction generalizing depth with
  | scalar value hs =>
    rw [expandedAt_of_scalar hs]
    exact .line (isLine_compact_of_scalar hs)
  | list items ih =>
    have hitem : ∀ item ∈ items, Lined (indentation (depth + 1) ++ expandedAt (depth + 1) item) := by
      intro item hmem
      have hfree := (recordFree_list_iff items).1 h item hmem
      exact (ih item hmem hfree (depth + 1)).prepend (unbroken_indentation _)
    -- without items the brackets stand on one line
    cases items with
    | nil => exact .line (by decide : IsLine ['[', ']'])
    | cons item items =>
      obtain ⟨hfirst, hrest⟩ := List.forall_mem_cons.1 hitem
      have hwhole := lined_bracketedParts hfirst (List.forall_mem_map.2 hrest)
        (by decide : IsLine ['[']) (by decide : IsLine [']']) depth
      simpa [expandedAt, expandedItems_eq_flatMap] using hwhole
  | map entries ih =>
    have hentry : ∀ entry ∈ entries, Lined (expandedEntry (depth + 1) entry) := by
      intro entry hmem
      have hfree := (recordFree_map_iff entries).1 h entry hmem
      exact lined_expandedEntry (ih entry hmem hfree (depth + 1))
    cases entries with
    | nil => exact .line (by decide : IsLine ['{', '}'])
    | cons entry entries =>
      obtain ⟨hfirst, hrest⟩ := List.forall_mem_cons.1 hentry
      have hwhole := lined_bracketedParts hfirst (List.forall_mem_map.2 hrest)
        (by decide : IsLine ['{']) (by decide : IsLine ['}']) depth
      simpa [expandedAt, expandedEntries_eq_flatMap, expandedEntry] using hwhole
  | record name fields ih =>
    rw [not_recordFree_record] at h
    cases h

/-! ## Kinds and coercion -/

variable {allowed : Kind → Bool} {value template result : Value}

theorem throughout_coerceAt {part converted : Value} {template? : Option Value}
    (hpart : part.throughout (allowed ·.kind) = true) (h : part.coerceAt template? = .ok converted)
    (hsome : ∀ template, template? = some template → part.coerce template = .ok converted →
      converted.throughout (allowed ·.kind) = true) :
    converted.throughout (allowed ·.kind) = true := by
  cases template? with
  | none =>
    rw [← Except.ok.inj h]
    exact hpart
  | some template => exact hsome template rfl h

theorem throughout_coerce_of_entries? {templates : List (String × Value)}
    (ht : template.entries? = some templates)
    (hentry : ∀ entry ∈ templates, ∀ {part converted : Value},
      part.throughout (allowed ·.kind) = true → entry.2.throughout (allowed ·.kind) = true →
        part.coerce entry.2 = .ok converted → converted.throughout (allowed ·.kind) = true)
    (hvalue : value.throughout (allowed ·.kind) = true)
    (htemplate : template.throughout (allowed ·.kind) = true)
    (h : value.coerce template = .ok result) : result.throughout (allowed ·.kind) = true := by
  obtain ⟨entries, entries', hv, hcoerce, rfl⟩ := exists_of_coerce_entries? ht h
  obtain ⟨taken, htaken, hmem, -⟩ := withEntries_self hv ht entries'
  rw [throughout_iff_of_entries? hv] at hvalue
  rw [throughout_iff_of_entries? ht] at htemplate
  rw [throughout_iff_of_entries? htaken, kind_withEntries hv ht]
  refine ⟨htemplate.1, fun entry' hentry' => ?_⟩
  obtain ⟨entry, hsource, -, hcoerced⟩ := exists_of_mem_coerceEntries hcoerce (hmem _ hentry')
  have hpart := hvalue.2 entry hsource
  refine throughout_coerceAt hpart hcoerced fun found hfound hok => ?_
  have htemplates := Dictionary.mem_of_find?_eq_some hfound
  exact hentry _ htemplates hpart (htemplate.2 _ htemplates) hok

/-- Coercion makes values of no kinds but those that are in the value or the template. -/
theorem throughout_coerce (hvalue : value.throughout (allowed ·.kind) = true)
    (htemplate : template.throughout (allowed ·.kind) = true)
    (h : value.coerce template = .ok result) : result.throughout (allowed ·.kind) = true := by
  induction template using Value.induction generalizing value result with
  | scalar template hs =>
    have hkind := kind_coerce h
    rw [throughout_of_scalar hs] at htemplate
    rwa [throughout_of_scalar (hkind ▸ hs), hkind]
  | list templates ih =>
    obtain ⟨items, items', rfl, hitems, rfl⟩ := exists_of_coerce_list h
    obtain ⟨hlength, hat⟩ := coerceItems_getElem? hitems
    rw [throughout_list_iff] at hvalue htemplate ⊢
    refine ⟨hvalue.1, fun item' hitem' => ?_⟩
    obtain ⟨i, hi, rfl⟩ := List.getElem_of_mem hitem'
    have hi' : i < items.length := by omega
    have hitem := hvalue.2 _ (List.getElem_mem hi')
    have hcoerced := hat (List.getElem?_eq_getElem hi') (List.getElem?_eq_getElem hi)
    refine throughout_coerceAt hitem hcoerced fun template ht hok => ?_
    have hmem := List.mem_of_getElem? ht
    exact ih template hmem hitem (htemplate.2 template hmem) hok
  | map templates ih => exact throughout_coerce_of_entries? rfl ih hvalue htemplate h
  | record name templates ih => exact throughout_coerce_of_entries? rfl ih hvalue htemplate h

/-- Coercing between values without records makes none. -/
theorem recordFree_coerce (hvalue : value.recordFree = true) (htemplate : template.recordFree = true)
    (h : value.coerce template = .ok result) : result.recordFree = true :=
  @throughout_coerce (· != .record) value template result hvalue htemplate h

theorem isComposite_iff_of_recordFree (h : value.recordFree = true) :
    value.kind.isComposite = true ↔ value.kind = .list ∨ value.kind = .map := by
  cases value with
  | record name fields => cases h
  | _ => simp [kind, Kind.isComposite]

/-! ## The difference of two values -/

/-- What is marked as kept or removed is the first value, and as kept or added the second. -/
theorem sides_of_difference_eq_some {first second : Value} {written : String}
    (hfirst : first.recordFree = true) (hsecond : second.recordFree = true)
    (h : first.difference second = some written) :
    side [' ', '-'] written.toList = lines first.expanded ∧
    side [' ', '+'] written.toList = lines second.expanded := by
  unfold difference at h
  split at h
  · cases h
  · cases h
    rw [String.toList_ofList]
    exact Text.sides_of_difference (lined_expandedAt hfirst 0) (lined_expandedAt hsecond 0)

theorem isSome_difference (first second : Value) : (first.difference second).isSome = true ↔
    first.kind.isComposite = true ∨ second.kind.isComposite = true := by
  unfold difference
  cases first.kind.isComposite <;> cases second.kind.isComposite <;> simp

end Value

namespace Check

open Text (lines side)

theorem eq_of_equal_eq_notEqual {expected actual reported converted : Value}
    {difference? : Option String}
    (h : Check.equal expected actual = .error (.notEqual reported converted difference?)) :
    actual.coerce expected = .ok converted ∧ reported = expected ∧
      difference? = expected.difference converted := by
  unfold equal at h
  split at h
  · cases h
  · rename_i hcoerce
    split at h
    · cases h
    · cases h
      exact ⟨hcoerce, rfl, rfl⟩

/-- A report that two values without records differ comes with a difference just if one of them is
a list or a map. Its lines kept or removed are what was expected, and those kept or added what was
there. -/
theorem difference_of_equal_faithful {expected actual reported converted : Value}
    {difference? : Option String} (hexpected : expected.recordFree = true)
    (hactual : actual.recordFree = true)
    (h : Check.equal expected actual = .error (.notEqual reported converted difference?)) :
    (difference?.isSome = true ↔
      (expected.kind = .list ∨ expected.kind = .map) ∨
        (converted.kind = .list ∨ converted.kind = .map)) ∧
    ∀ written, difference? = some written →
      side [' ', '-'] written.toList = lines expected.expanded ∧
      side [' ', '+'] written.toList = lines converted.expanded := by
  obtain ⟨hcoerce, rfl, rfl⟩ := eq_of_equal_eq_notEqual h
  have hconverted := Value.recordFree_coerce hactual hexpected hcoerce
  refine ⟨?_, fun written => Value.sides_of_difference_eq_some hexpected hconverted⟩
  rw [Value.isSome_difference, Value.isComposite_iff_of_recordFree hexpected,
    Value.isComposite_iff_of_recordFree hconverted]

/-- Of two nested lists the second is converted; the line feed in the text does not break its line.
-/
theorem difference_of_equal_faithful_nested :
    ∃ written,
      Check.equal (.list [.list [.int 1, .string "a\nb"]])
          (.list [.list [.string "2", .string "a\nb"]])
        = .error (.notEqual (.list [.list [.int 1, .string "a\nb"]])
            (.list [.list [.int 2, .string "a\nb"]]) (some written)) ∧
      side [' ', '-'] written.toList
        = lines (Value.list [.list [.int 1, .string "a\nb"]]).expanded ∧
      side [' ', '+'] written.toList
        = lines (Value.list [.list [.int 2, .string "a\nb"]]).expanded := by
  have hequal : Check.equal (.list [.list [.int 1, .string "a\nb"]])
      (.list [.list [.string "2", .string "a\nb"]])
        = .error (.notEqual (.list [.list [.int 1, .string "a\nb"]])
            (.list [.list [.int 2, .string "a\nb"]])
            (some "  [\n    [\n-     1,\n+     2,\n      \"a\\nb\"\n    ]\n  ]")) := by decide
  exact ⟨_, hequal, (difference_of_equal_faithful (by decide) (by decide) hequal).2 _ rfl⟩

end Check

end HttpTest
