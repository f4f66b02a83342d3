import HttpTest.Proofs.Number.Numeral
import HttpTest.Proofs.Text.Decoding
import HttpTest.Proofs.Value.Difference
import HttpTest.Proofs.Value.Equivalence

/-!
# What the text of a value says

In the text of a value its first character says of which kind the value is, and where it ends is
seen from what comes behind. So values without doubles and records have different texts
(`tellsApart_compact`); only the names of a record stand in a text as they are. A report that two
such values differ never shows the same text for both.
-/

namespace HttpTest

namespace Number

open Text (TellsApart append_inj_of_stops)

/-- The characters that the text of an integer is made of. -/
def inNumeral (c : Char) : Bool := c == '-' || c.isDigit

theorem inNumeral_of_mem_intText {i : Int} : ∀ c ∈ intText i, inNumeral c = true := by
  have hdigits : ∀ c ∈ natText i.natAbs, inNumeral c = true := by
    intro c hc
    rw [inNumeral, (isDigits_natText _).2 c hc, Bool.or_true]
  unfold intText
  split
  · exact List.forall_mem_cons.2 ⟨rfl, hdigits⟩
  · exact hdigits

theorem tellsApart_intText (i j : Int) : TellsApart intText inNumeral i j := by
  intro after after' hafter hafter' h
  obtain ⟨htext, hrest⟩ := append_inj_of_stops inNumeral_of_mem_intText
    inNumeral_of_mem_intText hafter hafter' h
  have hread := readInt?_of_numeral (isNumeral_intText i)
  rw [htext, readInt?_of_numeral (isNumeral_intText j)] at hread
  exact ⟨(Option.some.inj hread).symm, hrest⟩

end Number

namespace Value

open Text (TellsApart Stops Unclosed bracketed quoted)
open Number (inNumeral)

/-- There is neither a double nor a record in a value, at any depth. -/
structure Legible (value : Value) : Prop where
  floatFree : value.floatFree = true
  recordFree : value.recordFree = true

instance (value : Value) : Decidable value.Legible :=
  decidable_of_iff (value.floatFree = true ∧ value.recordFree = true)
    ⟨fun h => ⟨h.1, h.2⟩, fun h => ⟨h.floatFree, h.recordFree⟩⟩

theorem Legible.of_mem_items {items : List Value} (h : (Value.list items).Legible) {item : Value}
    (hi : item ∈ items) : item.Legible :=
  ⟨floatFree_of_mem_parts h.floatFree hi, (recordFree_list_iff items).1 h.recordFree item hi⟩

theorem Legible.of_mem_entries {entries : List (String × Value)} (h : (Value.map entries).Legible)
    {entry : String × Value} (he : entry ∈ entries) : entry.2.Legible :=
  ⟨floatFree_of_mem_parts h.floatFree (List.mem_map_of_mem he),
    (recordFree_map_iff entries).1 h.recordFree entry he⟩

/-! ## The text by its parts -/

theorem compactItems_eq_flatMap (items : List Value) :
    compactItems items = items.flatMap ([',', ' '] ++ compact ·) := by
  induction items with
  | nil => rfl
  | cons item items ih => simp [compactItems, ih]

def compactEntry (entry : String × Value) : List Char :=
  quoted entry.1 ++ [':', ' '] ++ entry.2.compact

theorem compactEntries_eq_flatMap (entries : List (String × Value)) :
    compactEntries entries = entries.flatMap ([',', ' '] ++ compactEntry ·) := by
  induction entries with
  | nil => rfl
  | cons entry entries ih => simp [compactEntries, compactEntry, ih]

theorem compact_list (items : List Value) :
    compact (.list items) = bracketed '[' ']' compact items := by
  cases items with
  | nil => rfl
  | cons item items => rw [compact, compactItems_eq_flatMap, bracketed]

theorem compact_map (entries : List (String × Value)) :
    compact (.map entries) = bracketed '{' '}' compactEntry entries := by
  cases entries with
  | nil => rfl
  | cons entry entries =>
    rw [compact, compactEntries_eq_flatMap, bracketed]
    simp [compactEntry]

/-! ## The kind that a text begins with -/

/-- The kind of the values whose text begins with the character. -/
def leadKind? (c : Char) : Option Kind :=
  if inNumeral c then some .int
  else match c with
    | 'n' => some .null
    | 't' | 'f' => some .bool
    | '"' => some .string
    | '[' => some .list
    | '{' => some .map
    | _ => none

/-- The first character of a text says which kind of value it is of. -/
theorem exists_leadKind? {value : Value} (h : value.Legible) :
    ∃ c rest, value.compact = c :: rest ∧ leadKind? c = some value.kind := by
  cases value with
  | null => exact ⟨'n', _, rfl, rfl⟩
  | bool b =>
    cases b with
    | false => exact ⟨'f', _, rfl, rfl⟩
    | true => exact ⟨'t', _, rfl, rfl⟩
  | int i =>
    obtain ⟨c, rest, htext⟩ := List.exists_cons_of_ne_nil (Number.isLine_intText i.toInt).ne_nil
    have hc : inNumeral c = true :=
      Number.inNumeral_of_mem_intText c (htext ▸ List.mem_cons_self)
    exact ⟨c, rest, htext, if_pos hc⟩
  | float x => cases h.floatFree
  | string s => exact ⟨'"', _, rfl, rfl⟩
  | list items =>
    rw [compact_list]
    cases items with
    | nil => exact ⟨'[', _, rfl, rfl⟩
    | cons item items => exact ⟨'[', _, rfl, rfl⟩
  | map entries =>
    rw [compact_map]
    cases entries with
    | nil => exact ⟨'{', _, rfl, rfl⟩
    | cons entry entries => exact ⟨'{', _, rfl, rfl⟩
  | record name fields => cases h.recordFree

theorem unclosed_compact {value : Value} (h : value.Legible) : Unclosed ']' value.compact := by
  obtain ⟨c, rest, htext, hlead⟩ := exists_leadKind? h
  refine ⟨c, rest, htext, ?_⟩
  rintro rfl
  cases hlead

theorem kind_eq_of_compact_append_eq {first second : Value} {after after' : List Char}
    (hfirst : first.Legible) (hsecond : second.Legible)
    (h : first.compact ++ after = second.compact ++ after') : first.kind = second.kind := by
  obtain ⟨c, rest, htext, hlead⟩ := exists_leadKind? hfirst
  obtain ⟨d, rest', htext', hlead'⟩ := exists_leadKind? hsecond
  rw [htext, htext'] at h
  rw [(List.cons.inj h).1, hlead'] at hlead
  exact (Option.some.inj hlead).symm

/-! ## The value that a text is of -/

theorem tellsApart_compact_of_scalar {first second : Value}
    (hscalar : first.kind.isComposite = false) (hfirst : first.Legible) (hsecond : second.Legible) :
    TellsApart compact inNumeral first second := by
  intro after after' hafter hafter' h
  have hkind := kind_eq_of_compact_append_eq hfirst hsecond h
  cases first with
  | null =>
    cases second with
    | null => exact ⟨rfl, List.append_cancel_left h⟩
    | _ => cases hkind
  | bool b =>
    cases second with
    | bool c =>
      cases b <;> cases c
      · exact ⟨rfl, List.append_cancel_left h⟩
      · cases h
      · cases h
      · exact ⟨rfl, List.append_cancel_left h⟩
    | _ => cases hkind
  | int i =>
    cases second with
    | int j =>
      -- the digits of an integer end where something comes that belongs to none
      obtain ⟨hsame, hrest⟩ := Number.tellsApart_intText i.toInt j.toInt hafter hafter' h
      exact ⟨congrArg Value.int (Int64.toInt_inj.1 hsame), hrest⟩
    | _ => cases hkind
  | float x => cases hfirst.floatFree
  | string s =>
    cases second with
    | string t =>
      obtain ⟨hsame, hrest⟩ := Text.quoted_append_inj h
      exact ⟨congrArg Value.string hsame, hrest⟩
    | _ => cases hkind
  | list items => cases hscalar
  | map entries => cases hscalar
  | record name fields => cases hscalar

theorem tellsApart_compactEntry {first second : String × Value}
    (h : TellsApart compact inNumeral first.2 second.2) :
    TellsApart compactEntry inNumeral first second := by
  intro after after' hafter hafter' heq
  have hkey : quoted first.1 ++ ([':', ' '] ++ (first.2.compact ++ after))
      = quoted second.1 ++ ([':', ' '] ++ (second.2.compact ++ after')) := by
    simpa [compactEntry] using heq
  obtain ⟨hname, hvalue⟩ := Text.quoted_append_inj hkey
  obtain ⟨hsame, hrest⟩ := h hafter hafter' (List.append_cancel_left hvalue)
  exact ⟨Prod.ext hname hsame, hrest⟩

/-- Values without doubles and records are found again from their texts, as long as no character
behind the text could belong to an integer. -/
theorem tellsApart_compact {first second : Value} (hfirst : first.Legible)
    (hsecond : second.Legible) : TellsApart compact inNumeral first second := by
  -- by the first value; the second is of its kind, since the two texts begin alike
  induction first using Value.induction generalizing second with
  | scalar first hs => exact tellsApart_compact_of_scalar hs hfirst hsecond
  | list items ih =>
    intro after after' hafter hafter' h
    have hkind := kind_eq_of_compact_append_eq hfirst hsecond h
    cases second with
    | list others =>
      rw [compact_list, compact_list] at h
      obtain ⟨hsame, hrest⟩ := Text.tellsApart_bracketed rfl rfl (by decide)
        (fun item hi => unclosed_compact (hfirst.of_mem_items hi))
        (fun item hi => unclosed_compact (hsecond.of_mem_items hi))
        (fun item hi other ho => ih item hi (hfirst.of_mem_items hi) (hsecond.of_mem_items ho))
        hafter hafter' h
      exact ⟨congrArg Value.list hsame, hrest⟩
    | _ => cases hkind
  | map entries ih =>
    intro after after' hafter hafter' h
    have hkind := kind_eq_of_compact_append_eq hfirst hsecond h
    cases second with
    | map others =>
      have hquote : ∀ entry : String × Value, Unclosed '}' (compactEntry entry) :=
        fun entry => ⟨'"', _, rfl, by decide⟩
      rw [compact_map, compact_map] at h
      obtain ⟨hsame, hrest⟩ := Text.tellsApart_bracketed rfl rfl (by decide)
        (fun entry _ => hquote entry) (fun entry _ => hquote entry)
        (fun entry he other ho => tellsApart_compactEntry
          (ih entry he (hfirst.of_mem_entries he) (hsecond.of_mem_entries ho)))
        hafter hafter' h
      exact ⟨congrArg Value.map hsame, hrest⟩
    | _ => cases hkind
  | record name fields ih => cases hfirst.recordFree

theorem text_inj {first second : Value} (hfirst : first.Legible) (hsecond : second.Legible)
    (h : first.text = second.text) : first = second := by
  have htext : first.compact ++ [] = second.compact ++ [] := by
    rw [List.append_nil, List.append_nil]
    exact String.ofList_injective h
  exact (tellsApart_compact hfirst hsecond Text.stops_nil Text.stops_nil htext).1

/-! ## The texts of a report -/

theorem floatFree_eq_of_entries? {value : Value} {entries : List (String × Value)}
    (h : value.entries? = some entries)
    (hentry : ∀ entry ∈ entries, entry.2.floatFree = entry.2.throughout (·.kind != .float)) :
    value.floatFree = value.throughout (·.kind != .float) := by
  have hown : value.floatFree = entriesFloatFree entries ∧ (value.kind != .float) = true := by
    rcases eq_map_or_record_of_entries? h with rfl | ⟨name, rfl⟩ <;> exact ⟨rfl, rfl⟩
  rw [Bool.eq_iff_iff, throughout_iff_of_entries? h, hown.1, entriesFloatFree_eq_all,
    List.all_eq_true, and_iff_right hown.2]
  exact forall₂_congr fun entry he => by rw [hentry entry he]

theorem floatFree_eq_throughout (value : Value) :
    value.floatFree = value.throughout (·.kind != .float) := by
  induction value using Value.induction with
  | scalar value hs =>
    rw [throughout_of_scalar hs]
    cases value with
    | list items => cases hs
    | map entries => cases hs
    | record name fields => cases hs
    | _ => rfl
  | list items ih =>
    have hown : ((Value.list items).kind != .float) = true := rfl
    rw [Bool.eq_iff_iff, throughout_list_iff, floatFree, itemsFloatFree_eq_all, List.all_eq_true,
      and_iff_right hown]
    exact forall₂_congr fun item hi => by rw [ih item hi]
  | map entries ih => exact floatFree_eq_of_entries? rfl ih
  | record name fields ih => exact floatFree_eq_of_entries? rfl ih

theorem Legible.coerce {value template result : Value} (hvalue : value.Legible)
    (htemplate : template.Legible) (h : value.coerce template = .ok result) : result.Legible := by
  refine ⟨?_, recordFree_coerce hvalue.recordFree htemplate.recordFree h⟩
  have hfree := hvalue.floatFree
  have hfree' := htemplate.floatFree
  rw [floatFree_eq_throughout] at hfree hfree' ⊢
  exact @throughout_coerce (· != .float) value template result hfree hfree' h

theorem fieldsOnce_of_recordFree {value : Value} (h : value.recordFree = true) :
    value.fieldsOnce = true := by
  induction value using Value.induction with
  | scalar value hs => exact (Regular.scalar hs).fieldsOnce
  | list items ih =>
    rw [recordFree_list_iff] at h
    rw [fieldsOnce, itemsFieldsOnce_eq_all, List.all_eq_true]
    exact fun item hi => ih item hi (h item hi)
  | map entries ih =>
    rw [recordFree_map_iff] at h
    rw [fieldsOnce, entriesFieldsOnce_eq_all, List.all_eq_true]
    exact fun entry he => ih entry he (h entry he)
  | record name fields ih => cases h

theorem Legible.plain {value : Value} (h : value.Legible) (hw : value.wellFormed = true) :
    value.Plain :=
  ⟨⟨hw, fieldsOnce_of_recordFree h.recordFree⟩, h.floatFree⟩

end Value

namespace Check

/-- Values that are reported as different do not have the same text, if what was expected is
without doubles and records, and so is what was found, as it is or as it was converted. -/
theorem text_ne_of_equal_eq_notEqual {expected actual reported converted : Value}
    {difference? : Option String} (hexpected : expected.Legible) (hw : expected.wellFormed = true)
    (hactual : actual.Legible ∨ converted.Legible)
    (h : equal expected actual = .error (.notEqual reported converted difference?)) :
    reported.text ≠ converted.text := by
  obtain ⟨hcoerce, rfl, -⟩ := eq_of_equal_eq_notEqual h
  have hconverted : converted.Legible :=
    hactual.elim (fun hactual => hactual.coerce hexpected hcoerce) id
  intro htext
  obtain rfl := Value.text_inj hexpected hconverted htext
  have hplain := hexpected.plain hw
  rw [equal, hcoerce] at h
  dsimp only at h
  rw [if_pos ((Value.equiv_iff_sortFields_eq hplain hplain).2 rfl)] at h
  cases h

/-- Values without doubles and records have the same text only if they are the same. So a report
that such a value was expected and another found shows two texts that differ, be the other one such
a value from the start or after the conversion. -/
theorem text_tells_values_apart {expected : Value} (h : expected.Legible) :
    (∀ other : Value, other.Legible → (expected.text = other.text ↔ expected = other)) ∧
      (expected.wellFormed = true →
        ∀ (actual reported converted : Value) (difference? : Option String),
          equal expected actual = .error (.notEqual reported converted difference?) →
            actual.Legible ∨ converted.Legible → reported.text ≠ converted.text) :=
  ⟨fun _ hother => ⟨Value.text_inj h hother, congrArg Value.text⟩,
    fun hw _ _ _ _ herror hactual => text_ne_of_equal_eq_notEqual h hw hactual herror⟩

/-- A text that looks like the end of one item and the start of the next, against two items, and a
double that is found where another integer was expected, under a key with a quotation mark. -/
theorem text_tells_quoted_separators_apart :
    let joined := Value.list [.string "a\", \"b"]
    let items := Value.list [.string "a", .string "b"]
    let expected := Value.map [("k\": ", .int 1)]
    let converted := Value.map [("k\": ", .int 2)]
    (joined.Legible ∧ items.Legible ∧ joined.text ≠ items.text) ∧
    expected.Legible ∧ expected.wellFormed = true ∧
      (∃ lines, equal expected (.map [("k\": ", .float (.ofInt 2))])
        = .error (.notEqual expected converted (some lines))) ∧
      converted.Legible ∧ expected.text ≠ converted.text := by
  intro joined items expected converted
  have hjoined : joined.Legible := by decide
  have hitems : items.Legible := by decide
  have hexpected : expected.Legible := by decide
  have hconverted : converted.Legible := by decide
  have hw : expected.wellFormed = true := by decide
  have herror : equal expected (.map [("k\": ", .float (.ofInt 2))])
      = .error (.notEqual expected converted
        (some "  \x7b\n-   \"k\\\": \": 1\n+   \"k\\\": \": 2\n  \x7d")) := by
    decide +kernel
  refine ⟨⟨hjoined, hitems, ?_⟩, hexpected, hw, ⟨_, herror⟩, hconverted, ?_⟩
  · intro htext
    exact absurd (((text_tells_values_apart hjoined).1 items hitems).1 htext) (by decide)
  · exact (text_tells_values_apart hexpected).2 hw _ _ _ _ herror (.inr hconverted)

end Check

end HttpTest
