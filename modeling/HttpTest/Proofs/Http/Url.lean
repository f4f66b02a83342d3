import Mathlib.Data.List.Infix
import HttpTest.Http.Url

/-!
# Addresses with a scheme

Whether an address has a scheme is decided by what stands before its first `://`. A scheme holds no
colon, so where an address is a scheme with a `://` behind it no earlier one can stand
(`Url.hasScheme_iff_grammar`), and nothing changes by what is put behind the address.
-/

namespace HttpTest

namespace Text

theorem eq_append_of_splitOnce? {separator text before after : List Char}
    (h : splitOnce? separator text = some (before, after)) :
    text = before ++ separator ++ after := by
  induction text generalizing before with
  | nil =>
    rw [splitOnce?] at h
    split at h
    next hempty =>
      cases h
      rw [List.isEmpty_iff.1 hempty]
      rfl
    next => cases h
  | cons c rest ih =>
    rw [splitOnce?] at h
    split at h
    next hfirst =>
      cases h
      exact (List.prefix_iff_eq_append.1 (List.isPrefixOf_iff_prefix.1 hfirst)).symm
    next =>
      obtain ⟨⟨first, second⟩, hrest, heq⟩ := Option.map_eq_some_iff.1 h
      cases heq
      rw [ih hrest]
      rfl

/-- What is put behind a text does not change where its first separator is. -/
theorem splitOnce?_append {separator text before after : List Char}
    (h : splitOnce? separator text = some (before, after)) (more : List Char) :
    splitOnce? separator (text ++ more) = some (before, after ++ more) := by
  induction text generalizing before with
  | nil =>
    rw [splitOnce?] at h
    split at h
    next hempty =>
      cases h
      rw [List.isEmpty_iff.1 hempty]
      cases more <;> rfl
    next => cases h
  | cons c rest ih =>
    rw [splitOnce?] at h
    split at h
    next hfirst =>
      cases h
      have hbegin := List.isPrefixOf_iff_prefix.1 hfirst
      have hmore : separator.isPrefixOf (c :: (rest ++ more)) = true :=
        List.isPrefixOf_iff_prefix.2 (hbegin.trans (List.prefix_append (c :: rest) more))
      rw [List.cons_append, splitOnce?, if_pos hmore, ← List.cons_append,
        List.drop_append_of_le_length hbegin.length_le]
    next hfirst =>
      obtain ⟨⟨first, second⟩, hrest, heq⟩ := Option.map_eq_some_iff.1 h
      cases heq
      -- the text is long enough for a separator, so it does not begin with one only now
      have hlength : separator.length ≤ (c :: rest).length := by
        rw [eq_append_of_splitOnce? hrest]
        simp only [List.length_cons, List.length_append]
        omega
      have hmore : ¬ separator.isPrefixOf (c :: (rest ++ more)) = true := by
        intro hbegins
        refine hfirst (List.isPrefixOf_iff_prefix.2 ?_)
        exact List.prefix_of_prefix_length_le (List.isPrefixOf_iff_prefix.1 hbegins)
          (List.prefix_append (c :: rest) more) hlength
      rw [List.cons_append, splitOnce?, if_neg hmore, ih hrest]
      rfl

/-- A separator is the first one if what stands before it does not hold the sign it begins with. -/
theorem splitOnce?_of_not_mem {sign : Char} {separator before : List Char} (h : sign ∉ before)
    (after : List Char) :
    splitOnce? (sign :: separator) (before ++ sign :: separator ++ after)
      = some (before, after) := by
  induction before with
  | nil =>
    have hbegins : (sign :: separator).isPrefixOf (sign :: (separator ++ after)) = true :=
      List.isPrefixOf_iff_prefix.2 (List.prefix_append (sign :: separator) after)
    show splitOnce? (sign :: separator) (sign :: (separator ++ after)) = _
    rw [splitOnce?, if_pos hbegins, List.length_cons, List.drop_succ_cons,
      List.drop_left]
  | cons c before ih =>
    obtain ⟨hc, hbefore⟩ := not_or.1 (List.mem_cons.not.1 h)
    have hbegins : ¬ (sign :: separator).isPrefixOf
        (c :: (before ++ sign :: separator ++ after)) = true := by
      rw [List.isPrefixOf_iff_prefix, List.cons_prefix_cons]
      exact fun hfirst => hc hfirst.1
    show splitOnce? (sign :: separator) (c :: (before ++ sign :: separator ++ after)) = _
    rw [splitOnce?, if_neg hbegins, ih hbefore]
    rfl

end Text

/-- An address with a scheme keeps it, whatever follows. -/
theorem Url.hasScheme_append {base : String} (h : hasScheme base = true) (rest : String) :
    hasScheme (base ++ rest) = true := by
  unfold hasScheme at h ⊢
  split at h
  next scheme after hsplit =>
    rw [String.toList_append, Text.splitOnce?_append hsplit]
    exact h
  next => cases h

namespace Url

/-- A letter, and any number of letters, digits and the signs `+`, `-` and `.` behind it. No letters
and digits but those of ASCII count. -/
def IsSchemeName (name : List Char) : Prop :=
  ∃ first more, name = first :: more ∧ first.isAlpha = true ∧
    ∀ c ∈ more, c.isAlpha = true ∨ c.isDigit = true ∨ c = '+' ∨ c = '-' ∨ c = '.'

theorem isSchemeChar_iff (c : Char) : isSchemeChar c = true ↔
    c.isAlpha = true ∨ c.isDigit = true ∨ c = '+' ∨ c = '-' ∨ c = '.' := by
  simp only [isSchemeChar, Char.isAlphanum, Bool.or_eq_true, beq_iff_eq, or_assoc]

theorem isScheme_iff (name : List Char) : isScheme name = true ↔ IsSchemeName name := by
  cases name with
  | nil => exact iff_of_false nofun fun ⟨_, _, hname, _⟩ => nomatch hname
  | cons first more =>
    rw [isScheme, Bool.and_eq_true, List.all_cons, Bool.and_eq_true, List.all_eq_true,
      isSchemeChar_iff]
    simp only [isSchemeChar_iff]
    constructor
    · rintro ⟨hletter, -, hmore⟩
      exact ⟨first, more, rfl, hletter, hmore⟩
    · rintro ⟨_, _, hname, hletter, hmore⟩
      cases hname
      exact ⟨hletter, .inl hletter, hmore⟩

theorem not_mem_of_isSchemeName {name : List Char} (h : IsSchemeName name) : ':' ∉ name := by
  obtain ⟨first, more, rfl, hletter, hmore⟩ := h
  intro hcolon
  rcases List.mem_cons.1 hcolon with rfl | hcolon
  · cases hletter
  · have hsign := hmore ':' hcolon
    revert hsign
    decide

/-- An address has a scheme exactly if it is the name of one, followed by `://` and anything else,
be there further separators in that or not. So it still has one when something is put behind it. -/
theorem hasScheme_iff_grammar (url rest : String) :
    (hasScheme url = true ↔
      ∃ scheme after : String, url = scheme ++ "://" ++ after ∧ IsSchemeName scheme.toList) ∧
    (hasScheme url = true → hasScheme (url ++ rest) = true) := by
  refine ⟨⟨fun h => ?_, ?_⟩, fun h => hasScheme_append h rest⟩
  · unfold hasScheme at h
    split at h
    next scheme after hsplit =>
      have hurl : url.toList = scheme ++ [':', '/', '/'] ++ after :=
        Text.eq_append_of_splitOnce? hsplit
      refine ⟨String.ofList scheme, String.ofList after, ?_, ?_⟩
      · rw [← String.toList_inj, hurl]
        simp
      · rw [String.toList_ofList]
        exact (isScheme_iff scheme).1 h
    next => cases h
  · rintro ⟨scheme, after, rfl, hname⟩
    have hsplit : Text.splitOnce? [':', '/', '/'] (scheme ++ "://" ++ after).toList
        = some (scheme.toList, after.toList) := by
      rw [String.toList_append, String.toList_append]
      exact Text.splitOnce?_of_not_mem (not_mem_of_isSchemeName hname) after.toList
    rw [hasScheme, hsplit]
    exact (isScheme_iff scheme.toList).2 hname

/-- A separator further back does not make up for what stands before the first one. -/
example : hasScheme "/redirect?to=http://b" = false ∧ hasScheme "svn+ssh://host?to=://" = true := by
  decide

end Url

end HttpTest
