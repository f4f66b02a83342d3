import Mathlib.Data.List.Flatten
import HttpTest.Chain.Clear
import HttpTest.Chain.Expect
import HttpTest.Proofs.Path
import HttpTest.Proofs.Pipeline.Resolution

/-!
# Clearing more

A pattern with fewer calls or fewer arguments addresses whatever the pattern addresses, and a
pattern addresses a path still when more calls or more arguments follow (`Path.clears_of_weakens`).
So clear steps that ask for less, and more of them, leave a subsequence of the steps to run.
-/

namespace HttpTest

/-- Fewer patterns accept what the patterns accept, however the arguments go on. -/
theorem argumentsStartWith_of_shorter {patterns arguments fewer more : List Value}
    (h : argumentsStartWith patterns arguments = true) (hfewer : fewer <+: patterns)
    (hmore : arguments <+: more) : argumentsStartWith fewer more = true := by
  induction fewer generalizing patterns arguments more with
  | nil => rw [argumentsStartWith]
  | cons pattern fewer ih =>
    -- there is a pattern, an argument and one among the more for each of the fewer
    cases patterns with
    | nil => exact absurd (List.prefix_nil.1 hfewer) (List.cons_ne_nil _ _)
    | cons first patterns =>
      obtain ⟨rfl, hpatterns⟩ := List.cons_prefix_cons.1 hfewer
      cases arguments with
      | nil => cases h
      | cons argument arguments =>
        cases more with
        | nil => exact absurd (List.prefix_nil.1 hmore) (List.cons_ne_nil _ _)
        | cons second more =>
          obtain ⟨rfl, harguments⟩ := List.cons_prefix_cons.1 hmore
          rw [argumentsStartWith, Bool.and_eq_true] at h ⊢
          exact ⟨h.1, ih h.2 hpatterns harguments⟩

namespace Path

/-- The pattern makes the first calls of another one, each with none but the first of its
arguments. -/
structure Weakens (weaker pattern : Path) : Prop where
  names_begin : weaker.names <+: pattern.names
  arguments_begin : ∀ (i : Nat) (fewer call : Segment), weaker.segments[i]? = some fewer →
    pattern.segments[i]? = some call → fewer.arguments <+: call.arguments

/-- The path makes the calls of a target first. Wherever a pattern gives arguments, those of the
target are the first ones of the path. -/
structure Extends (longer target pattern : Path) : Prop where
  names_begin : target.names <+: longer.names
  arguments_begin : ∀ (i : Nat) (asked call more : Segment), pattern.segments[i]? = some asked →
    target.segments[i]? = some call → longer.segments[i]? = some more →
      asked.arguments = [] ∨ call.arguments <+: more.arguments

theorem exists_getElem?_of_names {first second : Path} (h : first.names <+: second.names)
    {i : Nat} {call : Segment} (hcall : first.segments[i]? = some call) :
    ∃ other, second.segments[i]? = some other := by
  have hle : first.segments.length ≤ second.segments.length := by
    simpa [names] using h.length_le
  have hlt : i < first.segments.length := (List.getElem?_eq_some_iff.1 hcall).1
  exact ⟨_, List.getElem?_eq_getElem (hlt.trans_le hle)⟩

/-- Addressing, call by call. -/
theorem clears_iff_getElem? {pattern target : Path} : pattern.clears target = true ↔
    pattern.names <+: target.names ∧ ∀ (i : Nat) (asked call : Segment),
      pattern.segments[i]? = some asked → target.segments[i]? = some call →
        asked.arguments = [] ∨ argumentsStartWith asked.arguments call.arguments = true := by
  rw [clears_iff]
  refine and_congr_right fun _ => ⟨fun h i asked call hasked hcall => ?_, ?_⟩
  · refine h (asked, call) (List.mem_iff_getElem?.2 ⟨i, ?_⟩)
    exact List.getElem?_zip_eq_some.2 ⟨hasked, hcall⟩
  · rintro h ⟨asked, call⟩ hpair
    obtain ⟨i, hi⟩ := List.mem_iff_getElem?.1 hpair
    obtain ⟨hasked, hcall⟩ := List.getElem?_zip_eq_some.1 hi
    exact h i asked call hasked hcall

/-- A pattern that asks for less addresses what goes on from what the pattern addresses. -/
theorem clears_of_weakens {pattern target weaker longer : Path} (h : pattern.clears target = true)
    (hweaker : weaker.Weakens pattern) (hlonger : longer.Extends target pattern) :
    weaker.clears longer = true := by
  rw [clears_iff_getElem?] at h ⊢
  obtain ⟨hnames, harguments⟩ := h
  refine ⟨hweaker.names_begin.trans (hnames.trans hlonger.names_begin), ?_⟩
  intro i fewer more hfewer hmore
  obtain ⟨asked, hasked⟩ := exists_getElem?_of_names hweaker.names_begin hfewer
  obtain ⟨call, hcall⟩ := exists_getElem?_of_names hnames hasked
  have hfirst := hweaker.arguments_begin i fewer asked hfewer hasked
  -- what asks for any arguments goes on to do so
  have hany : asked.arguments = [] → fewer.arguments = [] := by
    intro hnone
    rw [hnone] at hfirst
    exact List.prefix_nil.1 hfirst
  rcases harguments i asked call hasked hcall with hnone | hstart
  · exact .inl (hany hnone)
  · rcases hlonger.arguments_begin i asked call more hasked hcall hmore with hnone | hkept
    · exact .inl (hany hnone)
    · exact .inr (argumentsStartWith_of_shorter hstart hfirst hkept)

theorem Extends.refl (target pattern : Path) : target.Extends target pattern where
  names_begin := List.prefix_rfl
  arguments_begin := by
    intro i asked call more _ hcall hmore
    rw [hcall] at hmore
    cases hmore
    exact .inr List.prefix_rfl

end Path

namespace Pipeline

/-- The same steps with weaker patterns in some clear steps, and with more clear steps among them. -/
inductive ClearsMore : (cleared steps : List Step) → Prop where
  | nil : ClearsMore [] []
  | cons (step : Step) {cleared steps : List Step} (h : ClearsMore cleared steps) :
      ClearsMore (step :: cleared) (step :: steps)
  | weaken {weaker step : Step} {first second : Path} (hweaker : weaker.action = .clear first)
      (hstep : step.action = .clear second) (hpattern : first.Weakens second)
      {cleared steps : List Step} (h : ClearsMore cleared steps) :
      ClearsMore (weaker :: cleared) (step :: steps)
  | insert {clear : Step} {pattern : Path} (hclear : clear.action = .clear pattern)
      {cleared steps : List Step} (h : ClearsMore cleared steps) :
      ClearsMore (clear :: cleared) steps

namespace ClearsMore

variable {cleared steps : List Step}

theorem ne_fail (h : ClearsMore cleared steps)
    (hsteps : ∀ step ∈ steps, ∀ message, step.action ≠ .fail message) :
    ∀ step ∈ cleared, ∀ message, step.action ≠ .fail message := by
  induction h with
  | nil => exact hsteps
  | cons step h ih =>
    obtain ⟨hstep, hrest⟩ := List.forall_mem_cons.1 hsteps
    exact List.forall_mem_cons.2 ⟨hstep, ih hrest⟩
  | weaken hweaker _ _ h ih =>
    refine List.forall_mem_cons.2 ⟨fun message hfail => ?_, ih (List.forall_mem_cons.1 hsteps).2⟩
    cases hweaker.symm.trans hfail
  | insert hclear h ih =>
    refine List.forall_mem_cons.2 ⟨fun message hfail => ?_, ih hsteps⟩
    cases hclear.symm.trans hfail

theorem isClearedLater (h : ClearsMore cleared steps) {step : Step}
    (hstep : Pipeline.isClearedLater steps step = true) :
    Pipeline.isClearedLater cleared step = true := by
  induction h with
  | nil => exact hstep
  | cons other h ih =>
    rw [isClearedLater_cons, Bool.or_eq_true] at hstep ⊢
    exact hstep.imp_right ih
  | @weaken weaker other first second hweaker hother hpattern cleared steps h ih =>
    rw [isClearedLater_cons, Bool.or_eq_true] at hstep ⊢
    -- what the pattern addresses is addressed by the weaker one, which stands in its place
    refine hstep.imp (fun hcleared => ?_) ih
    rw [clearPattern?_of_clear hother, Option.any_some] at hcleared
    rw [clearPattern?_of_clear hweaker, Option.any_some]
    obtain ⟨path, hpath, hclears⟩ := (Option.any_eq_true _ _).1 hcleared
    refine (Option.any_eq_true _ _).2 ⟨path, hpath, ?_⟩
    exact Path.clears_of_weakens hclears hpattern (.refl path second)
  | insert hclear h ih =>
    rw [isClearedLater_cons, Bool.or_eq_true]
    exact .inr (ih hstep)

/-- What survives more clearing survives less, in the same order. -/
theorem survivors_sublist (h : ClearsMore cleared steps) :
    (survivors cleared).Sublist (survivors steps) := by
  induction h with
  | nil => exact List.Sublist.refl _
  | @cons step cleared steps h ih =>
    rw [survivors_cons, survivors_cons]
    cases hclear : step.isClear with
    | true => exact ih
    | false =>
      cases hmore : Pipeline.isClearedLater cleared step with
      | true =>
        -- the step is gone, and it does not matter whether it was there before
        refine ih.trans ?_
        split
        · exact List.Sublist.refl _
        · exact List.sublist_cons_self _ _
      | false =>
        have hkept : Pipeline.isClearedLater steps step = false := by
          rw [← Bool.not_eq_true] at hmore ⊢
          exact fun hcleared => hmore (h.isClearedLater hcleared)
        rw [hkept]
        exact ih.cons_cons step
  | weaken hweaker hstep _ h ih =>
    rw [survivors_cons_of_clear (by rw [Step.isClear, hweaker]),
      survivors_cons_of_clear (by rw [Step.isClear, hstep])]
    exact ih
  | insert hclear h ih =>
    rw [survivors_cons_of_clear (by rw [Step.isClear, hclear])]
    exact ih

end ClearsMore

theorem inPhaseOrder_sublist {first second : List Step} (h : first.Sublist second) :
    (inPhaseOrder first).Sublist (inPhaseOrder second) :=
  List.Sublist.flatMap_right Phase.all fun _ _ => h.filter _

/-- Patterns are monotone: what a pattern addresses makes its calls first, and stays addressed when
the pattern asks for less or the path goes on. So a list of steps without misuse resolves to a
subsequence of what it did when clear steps get weaker patterns or are inserted. -/
theorem clearing_monotone :
    (∀ pattern target : Path, pattern.clears target = true →
      target.startsWith pattern = true ∧
        ∀ weaker longer : Path, weaker.Weakens pattern → longer.Extends target pattern →
          weaker.clears longer = true) ∧
    ∀ steps cleared : List Step, (∀ step ∈ steps, ∀ message, step.action ≠ .fail message) →
      ClearsMore cleared steps →
        ∃ before after, resolve steps = .ok before ∧ resolve cleared = .ok after ∧
          after.Sublist before := by
  constructor
  · intro pattern target hclears
    refine ⟨Path.startsWith_iff.2 (Path.clears_iff.1 hclears).1, ?_⟩
    exact fun weaker longer hweaker hlonger => Path.clears_of_weakens hclears hweaker hlonger
  · intro steps cleared hsteps hcleared
    have hbefore := resolve_of_usageError?_eq_none (usageError?_eq_none hsteps)
    have hafter := resolve_of_usageError?_eq_none (usageError?_eq_none (hcleared.ne_fail hsteps))
    exact ⟨_, _, hbefore, hafter, inPhaseOrder_sublist hcleared.survivors_sublist⟩

/-- Where the checks of one header were cleared, those of every header are. -/
theorem clearing_monotone_of_headers :
    let header (arguments : List Value) : Path := ⟨[⟨"expect", []⟩, ⟨"header", arguments⟩]⟩
    let check (name : String) : Step := ((ExpectChain.expect.header name).headerIs .notEmpty).step
    let clear (arguments : List Value) : Step := (ClearChain.clear.expect.header arguments).step
    ((header [.string "X"]).clears (header [.string "X"]) = true ∧
      (header []).Weakens (header [.string "X"]) ∧
      ((header [.string "X"]).push "len" [.int 5]).Extends (header [.string "X"])
        (header [.string "X"]) ∧
      (header []).clears ((header [.string "X"]).push "len" [.int 5]) = true) ∧
    (∀ step ∈ [check "X", check "Y", clear [.string "X"]], ∀ message,
      step.action ≠ .fail message) ∧
    ClearsMore [check "X", check "Y", clear []] [check "X", check "Y", clear [.string "X"]] ∧
    ∃ before after, resolve [check "X", check "Y", clear [.string "X"]] = .ok before ∧
      resolve [check "X", check "Y", clear []] = .ok after ∧ after.Sublist before := by
  intro header check clear
  have hclears : (header [.string "X"]).clears (header [.string "X"]) = true := by decide
  have hweaker : (header []).Weakens (header [.string "X"]) := by
    refine ⟨by decide, ?_⟩
    rintro (_ | _ | i) fewer call hfewer hcall
    · cases hfewer
      exact List.nil_prefix
    · cases hfewer
      exact List.nil_prefix
    · cases hfewer
  have hlonger : ((header [.string "X"]).push "len" [.int 5]).Extends (header [.string "X"])
      (header [.string "X"]) := by
    refine ⟨by decide, ?_⟩
    rintro (_ | _ | i) asked call more hasked hcall hmore
    · cases hasked
      exact .inl rfl
    · cases hcall
      cases hmore
      exact .inr List.prefix_rfl
    · cases hcall
  have hsteps : ∀ step ∈ [check "X", check "Y", clear [.string "X"]], ∀ message,
      step.action ≠ .fail message := ne_fail_of_usageError?_eq_none rfl
  have hcleared : ClearsMore [check "X", check "Y", clear []]
      [check "X", check "Y", clear [.string "X"]] :=
    .cons _ (.cons _ (.weaken rfl rfl hweaker .nil))
  obtain ⟨-, hstays⟩ := clearing_monotone.1 _ _ hclears
  exact ⟨⟨hclears, hweaker, hlonger, hstays _ _ hweaker hlonger⟩, hsteps, hcleared,
    clearing_monotone.2 _ _ hsteps hcleared⟩

end Pipeline

end HttpTest
