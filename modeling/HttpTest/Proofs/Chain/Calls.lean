import Mathlib.Data.List.Infix
import HttpTest.Chain.Send
import HttpTest.Chain.Expect
import HttpTest.Chain.Setup
import HttpTest.Proofs.Path

/-!
# The calls of a chain

A step that a chain declares carries the calls of the chain as its path, and it is one to run only
if no call was a misuse (`Step.OfChain.calls`). The first calls of a chain are those of a
shorter chain. A header is named by `get` once at most in a chain that is not misused.
-/

namespace HttpTest

namespace Stage

variable (stage : Stage) (phase : Phase) (action : Action)

@[simp] theorem path_stepWith : (stage.stepWith phase action).path = some stage.path := by
  unfold stepWith
  split <;> rfl

@[simp] theorem phase_stepWith : (stage.stepWith phase action).phase = phase := by
  unfold stepWith
  split <;> rfl

variable {stage phase action}

theorem stepWith_of_misuse_eq_none (h : stage.misuse = none) :
    stage.stepWith phase action = ⟨phase, some stage.path, action⟩ := by
  rw [stepWith, h]

theorem isClear_stepWith (h : ∀ pattern, action ≠ .clear pattern) :
    (stage.stepWith phase action).isClear = false := by
  unfold stepWith
  cases stage.misuse with
  | some misuse => rfl
  | none =>
    cases action with
    | clear pattern => exact absurd rfl (h pattern)
    | _ => rfl

/-- A misused stage has only a step that fails. -/
theorem misuse_eq_none_of_action_stepWith
    (h : ∀ message, (stage.stepWith phase action).action ≠ .fail message) :
    stage.misuse = none := by
  unfold stepWith at h
  split at h
  next misuse _ => exact absurd rfl (h misuse.message)
  next hnone => exact hnone

theorem misuse_note_eq_none_iff {misuse : Option Misuse} :
    (stage.note misuse).misuse = none ↔ stage.misuse = none ∧ misuse = none := by
  show (stage.misuse <|> misuse) = none ↔ _
  cases stage.misuse <;> simp

end Stage

/-- What holds of some calls and with them of all but the last, holds of the first of them. -/
theorem Segment.holds_of_first {P : List Segment → Prop}
    (hdrop : ∀ calls, P calls → calls.dropLast = [] ∨ P calls.dropLast)
    {first calls : List Segment} (hfirst : first <+: calls) (hne : first ≠ []) (h : P calls) :
    P first := by
  induction calls using List.reverseRecOn with
  | nil => exact absurd (List.prefix_nil.1 hfirst) hne
  | append_singleton calls call ih =>
    rcases List.prefix_concat_iff.1 hfirst with rfl | hshorter
    · exact h
    · rcases hdrop _ h with hnil | hcalls
      · rw [List.dropLast_concat] at hnil
        subst hnil
        exact absurd (List.prefix_nil.1 hshorter) hne
      · rw [List.dropLast_concat] at hcalls
        exact ih hshorter hcalls

/-- How often a header is named by `get`. -/
def getCount (calls : List Segment) : Nat := (calls.map Segment.name).count "get"

theorem getCount_get (calls : List Segment) (arguments : List Value) :
    getCount (calls ++ [⟨"get", arguments⟩]) = getCount calls + 1 := by
  rw [getCount, List.map_append, List.count_append]
  rfl

theorem getCount_of_ne (calls : List Segment) (arguments : List Value) {name : String}
    (h : name ≠ "get") : getCount (calls ++ [⟨name, arguments⟩]) = getCount calls := by
  rw [getCount, List.map_append, List.count_append, List.map_singleton, List.count_singleton,
    beq_false_of_ne h]
  rfl

theorem Operator.name_ne_get (operator : Operator) : operator.name ≠ "get" := by
  cases operator <;> decide

/-! ## Send chains -/

namespace SendChain

variable {place : SendPlace}

def calls (chain : SendChain place) : List Segment := chain.stage.path.segments

theorem exists_step_eq (chain : SendChain place) :
    ∃ action, chain.step = chain.stage.stepWith .send action ∧
      ∀ pattern, action ≠ .clear pattern := by
  unfold step
  cases chain <;> exact ⟨_, rfl, nofun⟩

theorem dropLast_calls (chain : SendChain place) :
    chain.calls.dropLast = [] ∨
      ∃ (before : SendPlace) (parent : SendChain before), parent.calls = chain.calls.dropLast := by
  cases chain with
  | send => exact .inl rfl
  | sendValue value => exact .inl rfl
  | _ => exact .inr ⟨_, ‹SendChain _›, List.dropLast_concat.symm⟩

theorem getCount_calls (chain : SendChain place) : getCount chain.calls = 0 := by
  induction chain with
  | send => rfl
  | sendValue value => rfl
  | _ =>
    rename_i ih
    exact (getCount_of_ne _ _ (by decide)).trans ih

end SendChain

/-! ## Expect chains -/

namespace ExpectChain

variable {place : ExpectPlace}

def calls (chain : ExpectChain place) : List Segment := chain.stage.path.segments

theorem exists_step_eq (chain : ExpectChain place) :
    ∃ action, chain.step = chain.stage.stepWith .expect action ∧
      ∀ pattern, action ≠ .clear pattern := by
  unfold step
  cases chain <;> exact ⟨_, rfl, nofun⟩

theorem dropLast_calls (chain : ExpectChain place) :
    chain.calls.dropLast = [] ∨
      ∃ (before : ExpectPlace) (parent : ExpectChain before),
        parent.calls = chain.calls.dropLast := by
  cases chain with
  | expect => exact .inl rfl
  | expectValue value => exact .inl rfl
  | _ => exact .inr ⟨_, ‹ExpectChain _›, List.dropLast_concat.symm⟩

theorem boundHeader?_eq_none (chain : ExpectChain place) (h : place ≠ .header)
    (h' : place ≠ .headers) : chain.boundHeader? = none := by
  cases chain with
  | header parent name => exact absurd rfl h
  | get parent name => exact absurd rfl h'
  | _ => rfl

/-- In a chain without misuse a header is named once at most, and not at all before one is bound. -/
theorem getCount_calls (chain : ExpectChain place) (h : chain.stage.misuse = none) :
    getCount chain.calls ≤ 1 ∧
      (place ≠ .done → chain.boundHeader? = none → getCount chain.calls = 0) := by
  induction chain with
  | expect => exact ⟨Nat.zero_le _, fun _ _ => rfl⟩
  | expectValue value => exact ⟨Nat.zero_le _, fun _ _ => rfl⟩
  | get parent name ih =>
    -- the header is not bound yet, or this call would be a misuse
    obtain ⟨hparent, hbound⟩ := Stage.misuse_note_eq_none_iff.1 h
    have hzero : getCount parent.calls = 0 :=
      (ih hparent).2 nofun (Option.map_eq_none_iff.1 hbound)
    have hone : getCount (get parent name).calls = getCount parent.calls + 1 :=
      getCount_get _ _
    refine ⟨by omega, fun _ hnone => ?_⟩
    rw [boundHeader?, Option.map_eq_none_iff.1 hbound] at hnone
    cases hnone
  | header parent name ih =>
    have hle := (ih (Stage.misuse_note_eq_none_iff.1 h).1).1
    exact ⟨(getCount_of_ne _ _ (by decide)).trans_le hle, fun _ hnone => nomatch hnone⟩
  | headerIs parent assertion ih =>
    have hle := (ih h).1
    exact ⟨(getCount_of_ne _ _ assertion.operator.name_ne_get).trans_le hle,
      fun hdone => absurd rfl hdone⟩
  | headersAre parent assertion ih =>
    have hle := (ih (Stage.misuse_note_eq_none_iff.1 h).1).1
    exact ⟨(getCount_of_ne _ _ assertion.operator.name_ne_get).trans_le hle,
      fun hdone => absurd rfl hdone⟩
  | bodyIs parent assertion supported ih | statusIs parent assertion supported ih =>
    have hle := (ih (Stage.misuse_note_eq_none_iff.1 h).1).1
    exact ⟨(getCount_of_ne _ _ assertion.operator.name_ne_get).trans_le hle,
      fun hdone => absurd rfl hdone⟩
  | jsonIs parent expression assertion supported ih =>
    have hle := (ih (Stage.misuse_note_eq_none_iff.1 h).1).1
    exact ⟨(getCount_of_ne _ _ assertion.operator.name_ne_get).trans_le hle,
      fun hdone => absurd rfl hdone⟩
  | _ =>
    -- the chain before is at a place where no header is bound
    rename_i ih
    obtain ⟨hle, hzero⟩ := ih (Stage.misuse_note_eq_none_iff.1 h).1
    have hparent := hzero nofun (boundHeader?_eq_none _ nofun nofun)
    exact ⟨(getCount_of_ne _ _ (by decide)).trans_le hle, fun _ _ =>
      (getCount_of_ne _ _ (by decide)).trans hparent⟩

end ExpectChain

/-! ## Steps of either -/

/-- The step is declared by a send chain or an expect chain. -/
inductive Step.OfChain : Step → Prop where
  | send {place : SendPlace} (chain : SendChain place) : OfChain chain.step
  | expect {place : ExpectPlace} (chain : ExpectChain place) : OfChain chain.step

/-- The calls are those of a send chain or an expect chain. -/
inductive Segment.OfChain : List Segment → Prop where
  | send {place : SendPlace} (chain : SendChain place) : OfChain chain.calls
  | expect {place : ExpectPlace} (chain : ExpectChain place) : OfChain chain.calls

theorem Segment.OfChain.of_first {first calls : List Segment} (h : OfChain calls)
    (hfirst : first <+: calls) (hne : first ≠ []) : OfChain first := by
  refine holds_of_first (fun calls hcalls => ?_) hfirst hne h
  cases hcalls with
  | send chain =>
    rcases chain.dropLast_calls with hnil | ⟨_, parent, hparent⟩
    · exact .inl hnil
    · rw [← hparent]
      exact .inr (.send parent)
  | expect chain =>
    rcases chain.dropLast_calls with hnil | ⟨_, parent, hparent⟩
    · exact .inl hnil
    · rw [← hparent]
      exact .inr (.expect parent)

theorem Step.OfChain.isClear_eq_false {step : Step} (h : step.OfChain) :
    step.isClear = false := by
  cases h with
  | send chain =>
    obtain ⟨action, hstep, hclear⟩ := chain.exists_step_eq
    rw [hstep]
    exact Stage.isClear_stepWith hclear
  | expect chain =>
    obtain ⟨action, hstep, hclear⟩ := chain.exists_step_eq
    rw [hstep]
    exact Stage.isClear_stepWith hclear

/-- A step to run that a chain declares has the calls of the chain as its path, and names a header
by `get` once at most. -/
theorem Step.OfChain.calls {step : Step} {path : Path} (h : step.OfChain)
    (hpath : step.path = some path) (hrun : ∀ message, step.action ≠ .fail message) :
    Segment.OfChain path.segments ∧ getCount path.segments ≤ 1 := by
  cases h with
  | send chain =>
    obtain ⟨action, hstep, -⟩ := chain.exists_step_eq
    rw [hstep, Stage.path_stepWith] at hpath
    cases hpath
    exact ⟨.send chain, chain.getCount_calls.trans_le (Nat.zero_le 1)⟩
  | expect chain =>
    obtain ⟨action, hstep, -⟩ := chain.exists_step_eq
    rw [hstep] at hpath hrun
    rw [Stage.path_stepWith] at hpath
    cases hpath
    have hmisuse := Stage.misuse_eq_none_of_action_stepWith hrun
    exact ⟨.expect chain, (chain.getCount_calls hmisuse).1⟩

end HttpTest
