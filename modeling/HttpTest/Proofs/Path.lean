import Mathlib.Data.List.Forall2
import Mathlib.Data.List.Infix
import HttpTest.Path

/-!
# Names and arguments of paths

A pattern addresses the paths whose names begin with its names, as far as its arguments allow
(`clears_iff`). One that makes the first calls of a path with a leading run of the arguments of each
call addresses the path if these arguments equal themselves (`clears_of_narrows`).
-/

namespace HttpTest

/-- The call with none but the first of its arguments. -/
structure Segment.Narrows (narrowed call : Segment) : Prop where
  name_eq : narrowed.name = call.name
  first_arguments : narrowed.arguments <+: call.arguments

theorem argumentsStartWith_of_first {patterns arguments : List Value} (h : patterns <+: arguments)
    (hself : ∀ pattern ∈ patterns, Check.equal pattern pattern = .ok ()) :
    argumentsStartWith patterns arguments = true := by
  induction patterns generalizing arguments with
  | nil => rw [argumentsStartWith]
  | cons pattern patterns ih =>
    cases arguments with
    | nil => exact absurd (List.prefix_nil.1 h) (List.cons_ne_nil _ _)
    | cons argument arguments =>
      obtain ⟨rfl, hrest⟩ := List.cons_prefix_cons.1 h
      obtain ⟨hpattern, hpatterns⟩ := List.forall_mem_cons.1 hself
      rw [argumentsStartWith, hpattern, ih hrest hpatterns]
      rfl

namespace Path

def names (path : Path) : List String := path.segments.map Segment.name

/-- Paired as far as both go, the names agree, and the first list is not longer. -/
theorem names_prefix_iff {firsts segments : List Segment} :
    firsts.map Segment.name <+: segments.map Segment.name ↔
      firsts.length ≤ segments.length ∧
        ∀ pair ∈ firsts.zip segments, pair.1.name = pair.2.name := by
  induction firsts generalizing segments with
  | nil => simp
  | cons first firsts ih =>
    cases segments with
    | nil => simp
    | cons segment segments =>
      rw [List.map_cons, List.map_cons, List.cons_prefix_cons, ih, List.zip_cons_cons,
        List.forall_mem_cons, List.length_cons, List.length_cons, Nat.add_le_add_iff_right]
      exact and_left_comm

theorem startsWith_iff {path first : Path} :
    path.startsWith first = true ↔ first.names <+: path.names := by
  rw [startsWith, Bool.and_eq_true, decide_eq_true_eq, List.all_eq_true, names, names,
    names_prefix_iff]
  simp only [beq_iff_eq]
  rfl

theorem clears_iff {pattern target : Path} : pattern.clears target = true ↔
    pattern.names <+: target.names ∧ ∀ pair ∈ pattern.segments.zip target.segments,
      pair.1.arguments = [] ∨ argumentsStartWith pair.1.arguments pair.2.arguments = true := by
  rw [clears, Bool.and_eq_true, startsWith_iff, List.all_eq_true]
  simp only [Bool.or_eq_true, List.isEmpty_iff]

theorem names_of_narrows {narrowed calls : List Segment}
    (h : List.Forall₂ Segment.Narrows narrowed calls) :
    narrowed.map Segment.name = calls.map Segment.name := by
  induction h with
  | nil => rfl
  | cons hcall _ ih => exact congrArg₂ List.cons hcall.name_eq ih

theorem clears_of_narrows {pattern target : Path} {calls : List Segment}
    (hfirst : calls <+: target.segments)
    (hnarrows : List.Forall₂ Segment.Narrows pattern.segments calls)
    (hself : ∀ segment ∈ pattern.segments, ∀ value ∈ segment.arguments,
      Check.equal value value = .ok ()) :
    pattern.clears target = true := by
  rw [clears_iff]
  constructor
  · rw [names, names_of_narrows hnarrows]
    exact hfirst.map Segment.name
  · -- the segments of the pattern are paired with the calls that they narrow
    obtain ⟨rest, hrest⟩ := hfirst
    have hzip : pattern.segments.zip target.segments = pattern.segments.zip calls := by
      rw [← hrest, ← List.append_nil pattern.segments, List.zip_append hnarrows.length_eq,
        List.zip_nil_left, List.append_nil, List.append_nil]
    rintro ⟨segment, call⟩ hpair
    rw [hzip] at hpair
    have hcall := (List.forall₂_iff_zip.1 hnarrows).2 hpair
    have hsegment := (List.of_mem_zip hpair).1
    exact .inr (argumentsStartWith_of_first hcall.first_arguments (hself segment hsegment))

end Path

end HttpTest
