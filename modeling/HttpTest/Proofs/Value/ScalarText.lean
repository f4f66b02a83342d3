import HttpTest.Proofs.Value.Equivalence
import HttpTest.Proofs.Value.Number

/-!
# Integers and truth values as text

An integer and a truth value are written as a text and read back from it, and whatever blanks stand
around the text make no difference. So no two of a kind have the same text, and the check of one
against the text of another reports that they differ (`Value.scalars_round_trip`). Truth values are
read in any mix of case.
-/

namespace HttpTest

namespace Text

theorem toLower_of_isBlank {c : Char} (h : isBlank c = true) : c.toLower = c := by
  apply dif_neg
  rw [ge_iff_le, UInt32.le_iff_toNat_le, UInt32.le_iff_toNat_le]
  rintro ⟨hlow, hhigh⟩
  have hrange : 65 ≤ c.toNat ∧ c.toNat ≤ 90 := ⟨hlow, hhigh⟩
  simp only [isBlank, Bool.or_eq_true, Bool.and_eq_true, decide_eq_true_eq, beq_iff_eq] at h
  omega

theorem Unblank.of_map_toLower {text : List Char} (h : Unblank (text.map Char.toLower)) :
    Unblank text := by
  refine ⟨fun hnil => h.1 (by rw [hnil, List.map_nil]), fun c hc => ?_⟩
  rw [← Bool.not_eq_true]
  intro hblank
  have hlower := h.2 c.toLower (List.mem_map_of_mem hc)
  rw [toLower_of_isBlank hblank, hblank] at hlower
  cases hlower

theorem trim_of_unblank {text : List Char} (h : Unblank text) : trim text = text := by
  have hown : trim ([] ++ text ++ []) = text := trim_append h nofun nofun
  rwa [List.nil_append, List.append_nil] at hown

end Text

namespace Value

/-- Blanks around a text that holds none itself do not matter to what it is read as. -/
theorem coerceTo_padded {before word after : String} (h : Text.Unblank word.toList)
    (hbefore : ∀ c ∈ before.toList, Text.isBlank c = true)
    (hafter : ∀ c ∈ after.toList, Text.isBlank c = true) {target : Kind} (hne : target ≠ .string)
    {converted : Value} :
    (Value.string (before ++ word ++ after)).coerceTo target = .ok converted ↔
      (Value.string word).coerceTo target = .ok converted := by
  have htrim : Text.trim (before ++ word ++ after).toList = Text.trim word.toList := by
    rw [String.toList_append, String.toList_append, Text.trim_append h hbefore hafter,
      Text.trim_of_unblank h]
  rw [coerceTo_of_string_iff hne, coerceTo_of_string_iff hne]
  cases target <;> simp only [scalarAs?, htrim]

/-- The text of an integer is a numeral of it, which is read at once and not as a double. -/
theorem coerceTo_int_of_intText (i : Int64) :
    (Value.string (String.ofList (Number.intText i.toInt))).coerceTo .int = .ok (.int i) := by
  have hnumeral := Number.isNumeral_intText i.toInt
  rw [coerceTo_of_string_iff (by decide), scalarAs?, String.toList_ofList,
    Text.trim_of_unblank hnumeral.unblank, (readInt64?_of_numeral hnumeral i).2 (.inl rfl)]
  rfl

end Value

namespace Check

open Value

theorem equal_of_coerceTo {expected actual converted : Value}
    (hscalar : expected.kind.isComposite = false) (hfree : expected.floatFree = true)
    (h : actual.coerceTo expected.kind = .ok converted) :
    equal expected actual =
      if expected = converted then .ok () else .error (.notEqual expected converted none) := by
  have hkind := kind_coerceTo h
  have hequiv := equiv_of_scalar hscalar hkind
  have hlines : expected.difference converted = none := by
    rw [difference, hkind, hscalar]
    rfl
  rw [equal, coerce_of_scalar actual hscalar, h]
  dsimp only
  rw [hequiv, hlines]
  by_cases hsame : expected = converted
  · have hself : (expected == converted) = true := by
      rw [← hsame]
      exact same_self_of_scalar hscalar (nanFree_of_scalar hscalar hfree)
    rw [if_pos hself, if_pos hsame]
  · have hother : ¬ (expected == converted) = true :=
      fun hbeq => hsame (eq_of_same_of_scalar hscalar hfree hbeq)
    rw [if_neg hother, if_neg hsame]

end Check

namespace Value

/-- The value is written as `text`. It is read back from any of its spellings, of which the text is
one, with blanks around it or without, and the checks between the value and its text agree with
that. They report any other value of the kind as different. -/
structure RoundTrips (value : Value) (text : String) (Spelling : String → Prop) : Prop where
  written : value.coerceTo .string = .ok (.string text)
  spelled : Spelling text
  read : ∀ before word after : String, Spelling word →
    (∀ c ∈ before.toList, Text.isBlank c = true) → (∀ c ∈ after.toList, Text.isBlank c = true) →
    (Value.string (before ++ word ++ after)).coerceTo value.kind = .ok value ∧
      Check.equal value (.string (before ++ word ++ after)) = .ok ()
  equal_text : Check.equal (.string text) value = .ok ()
  distinct : ∀ other : Value, other.kind = value.kind → other ≠ value →
    Check.equal other (.string text) = .error (.notEqual other value none) ∧
      ∃ written, other.coerceTo .string = .ok (.string written) ∧
        Check.equal (.string text) other
          = .error (.notEqual (.string text) (.string written) none)

theorem floatFree_of_scalar {value : Value} (hscalar : value.kind.isComposite = false)
    (hfloat : value.kind ≠ .float) : value.floatFree = true := by
  cases value with
  | float x => exact absurd rfl hfloat
  | list items => cases hscalar
  | map entries => cases hscalar
  | record name fields => cases hscalar
  | _ => rfl

/-- Where each value of a kind is read back from what it is written as, a value round-trips through
all the words that are read as it. -/
theorem RoundTrips.of_read {value : Value} {text : String} {Spelling : String → Prop}
    (hscalar : value.kind.isComposite = false) (hfloat : value.kind ≠ .float)
    (hstring : value.kind ≠ .string) (hwritten : value.coerceTo .string = .ok (.string text))
    (hspelled : Spelling text)
    (hread : ∀ word, Spelling word → Text.Unblank word.toList ∧
      (Value.string word).coerceTo value.kind = .ok value)
    (hkind : ∀ other : Value, other.kind = value.kind →
      ∃ written, other.coerceTo .string = .ok (.string written) ∧
        (Value.string written).coerceTo value.kind = .ok other) :
    value.RoundTrips text Spelling := by
  obtain ⟨-, hreadText⟩ := hread text hspelled
  have hfree := floatFree_of_scalar hscalar hfloat
  refine ⟨hwritten, hspelled, ?_, ?_, ?_⟩
  · intro before word after hword hbefore hafter
    obtain ⟨hunblank, hok⟩ := hread word hword
    have hpadded := (coerceTo_padded hunblank hbefore hafter hstring).2 hok
    exact ⟨hpadded, by rw [Check.equal_of_coerceTo hscalar hfree hpadded, if_pos rfl]⟩
  · rw [Check.equal_of_coerceTo rfl rfl hwritten, if_pos rfl]
  · intro other hother hne
    obtain ⟨written, hotherWritten, hotherRead⟩ := hkind other hother
    -- from one text only one of the two could be read
    have htext : text ≠ written := by
      rintro rfl
      rw [hreadText] at hotherRead
      exact hne (Except.ok.inj hotherRead).symm
    rw [← hother] at hreadText hscalar hfloat
    refine ⟨?_, written, hotherWritten, ?_⟩
    · rw [Check.equal_of_coerceTo hscalar (floatFree_of_scalar hscalar hfloat) hreadText,
        if_neg hne]
    · rw [Check.equal_of_coerceTo rfl rfl hotherWritten, if_neg fun h => htext (string.inj h)]

theorem roundTrips_int (i : Int64) :
    (Value.int i).RoundTrips (String.ofList (Number.intText i.toInt))
      (· = String.ofList (Number.intText i.toInt)) := by
  refine .of_read rfl nofun nofun rfl rfl ?_ ?_
  · rintro word rfl
    refine ⟨?_, coerceTo_int_of_intText i⟩
    rw [String.toList_ofList]
    exact (Number.isNumeral_intText i.toInt).unblank
  · intro other hother
    cases other with
    | int j => exact ⟨_, rfl, coerceTo_int_of_intText j⟩
    | _ => cases hother

def boolText (b : Bool) : String := if b then "true" else "false"

theorem coerceTo_bool_of_equalIgnoringCase {b : Bool} {word : String}
    (h : Text.equalIgnoringCase (boolText b) word = true) :
    Text.Unblank word.toList ∧ (Value.string word).coerceTo .bool = .ok (.bool b) := by
  have hlower : word.toList.map Char.toLower = (boolText b).toList.map Char.toLower :=
    (eq_of_beq h).symm
  have hunblank : Text.Unblank word.toList := by
    apply Text.Unblank.of_map_toLower
    rw [hlower]
    cases b <;> decide
  refine ⟨hunblank, ?_⟩
  rw [coerceTo_of_string_iff (by decide), scalarAs?, Text.trim_of_unblank hunblank, readBool?, hlower]
  cases b <;> rfl

theorem roundTrips_bool (b : Bool) :
    (Value.bool b).RoundTrips (boolText b) (Text.equalIgnoringCase (boolText b) · = true) := by
  have hown : ∀ c : Bool, Text.equalIgnoringCase (boolText c) (boolText c) = true :=
    fun c => beq_self_eq_true _
  refine .of_read rfl nofun nofun rfl (hown b) ?_ ?_
  · exact fun word hword => coerceTo_bool_of_equalIgnoringCase hword
  · intro other hother
    cases other with
    | bool c => exact ⟨_, rfl, (coerceTo_bool_of_equalIgnoringCase (hown c)).2⟩
    | _ => cases hother

/-- Every integer of 64 bits, the least one among them, and every truth value round-trips through
its text; a truth value does so in any mix of case. -/
theorem scalars_round_trip :
    (∀ i : Int64, ∃ text, (Value.int i).RoundTrips text (· = text)) ∧
      ∀ b : Bool, ∃ text, (Value.bool b).RoundTrips text (Text.equalIgnoringCase text · = true) :=
  ⟨fun i => ⟨_, roundTrips_int i⟩, fun b => ⟨_, roundTrips_bool b⟩⟩

example : (Value.string "\t-9223372036854775808\u00a0").coerceTo .int
    = .ok (.int Int64.minValue) := by
  decide +kernel

end Value

end HttpTest
