import HttpTest.Text.Basic

/-!
# Headers

A list of headers keeps the order in which they were set. Their names are compared without regard to
the case of ASCII letters.
-/

namespace HttpTest

/-- A header: its name, as it was spelled, and its value. -/
abbrev Header := String × String

namespace Header

def capitalized : List Char → List Char
  | [] => []
  | c :: rest => c.toUpper :: rest.map Char.toLower

/-- The canonical form of a name, in which each part between hyphens is capitalized. -/
def canonicalName (name : String) : String :=
  String.ofList (Text.joinWith ['-'] ((Text.splitAtChar '-' name.toList).map capitalized))

/-- The value of the first header with a name. -/
def find? (headers : List Header) (name : String) : Option String :=
  (headers.find? fun header => Text.equalIgnoringCase header.1 name).map Prod.snd

def findAll (headers : List Header) (name : String) : List String :=
  (headers.filter fun header => Text.equalIgnoringCase header.1 name).map Prod.snd

/-- The headers with one more at the end, in place of all earlier ones of its name. -/
def set (headers : List Header) (name value : String) : List Header :=
  headers.filter (fun header => !Text.equalIgnoringCase header.1 name) ++ [(name, value)]

/-- After a header was set its name has the new value and every other name the value it had. -/
theorem find?_set (headers : List Header) (name value other : String) :
    find? (set headers name value) other =
      if Text.equalIgnoringCase name other then some value else find? headers other := by
  simp only [find?, set, List.find?_append, List.find?_filter, List.find?_cons, List.find?_nil]
  by_cases h : Text.equalIgnoringCase name other = true
  · have hnone : headers.find? (fun header =>
        !Text.equalIgnoringCase header.1 name && Text.equalIgnoringCase header.1 other) = none := by
      rw [List.find?_eq_none]
      intro header _
      simp only [Text.equalIgnoringCase, beq_iff_eq, Bool.not_eq_true', Bool.and_eq_true,
        beq_eq_false_iff_ne, not_and] at h ⊢
      intro hne heq
      exact hne (heq.trans h.symm)
    simp [hnone, h]
  · have hsame : (fun header : Header =>
        !Text.equalIgnoringCase header.1 name && Text.equalIgnoringCase header.1 other)
          = fun header => Text.equalIgnoringCase header.1 other := by
      funext header
      cases heq : Text.equalIgnoringCase header.1 other with
      | false => simp
      | true =>
        simp only [Text.equalIgnoringCase, beq_iff_eq, Bool.and_true, Bool.not_eq_true',
          beq_eq_false_iff_ne] at h heq ⊢
        intro hn
        exact h (hn.symm.trans heq)
    simp [hsame, h]

end Header

end HttpTest
