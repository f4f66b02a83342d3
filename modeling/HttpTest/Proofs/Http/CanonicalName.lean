import Mathlib
import HttpTest.Proofs.Http.Header

/-!
# Canonical header names

The canonical form of a header name capitalizes each part between hyphens. It changes the case of
letters only (`map_toLower_canonicalName`) and depends on nothing but the name in small letters
(`canonicalName_eq`), since no letter becomes a hyphen or the other way round. So two names have one
canonical form exactly if they are equal up to case.
-/

namespace HttpTest

namespace Text

theorem splitAtChar_map {separator : Char} {f : Char → Char}
    (h : ∀ c, f c = separator ↔ c = separator) (text : List Char) :
    splitAtChar separator (text.map f) = (splitAtChar separator text).map (List.map f) := by
  induction text with
  | nil => rfl
  | cons c rest ih =>
    by_cases hc : c = separator
    · simp [splitAtChar, hc, (h separator).2 rfl, ih]
    · obtain ⟨piece, pieces, hrest⟩ :=
        List.exists_cons_of_ne_nil (splitAtChar_ne_nil separator rest)
      have hfc : f c ≠ separator := fun e => hc ((h c).1 e)
      rw [hrest, List.map_cons] at ih
      rw [List.map_cons, splitAtChar_cons_ne hfc ih, splitAtChar_cons_ne hc hrest]
      rfl

theorem map_joinWith {separator : List Char} {f : Char → Char} (h : separator.map f = separator)
    (pieces : List (List Char)) :
    (joinWith separator pieces).map f = joinWith separator (pieces.map (List.map f)) := by
  induction pieces with
  | nil => rfl
  | cons first rest ih =>
    cases rest with
    | nil => rfl
    | cons second rest =>
      rw [joinWith_cons_cons, List.map_append, List.map_append, h, ih]
      rfl

theorem toLower_eq_hyphen_iff (c : Char) : c.toLower = '-' ↔ c = '-' := by
  constructor
  · intro h
    by_cases hupper : c.isUpper = true
    · -- a small letter is no hyphen
      have hlower : c.toLower.isLower = true := by simp [Char.isAlpha, hupper]
      rw [h] at hlower
      cases hlower
    · rwa [Char.toLower_eq_of_not_isUpper hupper] at h
  · rintro rfl
    rfl

end Text

namespace Header

theorem map_toLower_capitalized (part : List Char) :
    (capitalized part).map Char.toLower = part.map Char.toLower := by
  cases part with
  | nil => rfl
  | cons c rest => simp [capitalized]

theorem capitalized_map_toLower (part : List Char) :
    capitalized (part.map Char.toLower) = capitalized part := by
  cases part with
  | nil => rfl
  | cons c rest => simp [capitalized]

/-- The canonical form of a name is a spelling of it. -/
theorem map_toLower_canonicalName (name : String) :
    (canonicalName name).toList.map Char.toLower = name.toList.map Char.toLower := by
  have hparts : ((Text.splitAtChar '-' name.toList).map capitalized).map (List.map Char.toLower)
      = (Text.splitAtChar '-' name.toList).map (List.map Char.toLower) := by
    simp [map_toLower_capitalized]
  rw [canonicalName, String.toList_ofList, Text.map_joinWith rfl, hparts,
    ← Text.splitAtChar_map Text.toLower_eq_hyphen_iff, Text.joinWith_splitAtChar]

/-- The canonical form does not depend on how a name is spelled. -/
theorem canonicalName_eq (name : String) :
    canonicalName name = String.ofList (Text.joinWith ['-']
      ((Text.splitAtChar '-' (name.toList.map Char.toLower)).map capitalized)) := by
  rw [canonicalName, Text.splitAtChar_map Text.toLower_eq_hyphen_iff]
  simp [Function.comp_def, capitalized_map_toLower]

theorem canonicalName_eq_iff (first second : String) :
    canonicalName first = canonicalName second ↔ Text.equalIgnoringCase first second = true := by
  rw [Text.equalIgnoringCase, beq_iff_eq]
  constructor
  · intro h
    rw [← map_toLower_canonicalName first, h, map_toLower_canonicalName]
  · intro h
    rw [canonicalName_eq, h, ← canonicalName_eq]

theorem canonicalName_canonicalName (name : String) :
    canonicalName (canonicalName name) = canonicalName name := by
  rw [canonicalName_eq_iff, Text.equalIgnoringCase, map_toLower_canonicalName, beq_self_eq_true]

end Header

end HttpTest
