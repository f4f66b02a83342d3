import Mathlib.Data.List.Basic
import Mathlib.Data.List.Nodup
import HttpTest.Scenario.Expectation
import HttpTest.Proofs.Chain.Calls
import HttpTest.Proofs.Result

/-!
# Which expectations stand for steps

An expectation as it is written may name any parts of the response and state anything about them. It
stands for a step exactly if it names one part and states one thing that can be stated about it, and
then for the step that the calls of an expect chain declare (`Expectation.step_iff_complete`).
-/

namespace HttpTest

/-! ## What is given for one key only -/

/-- There is data for the key and for no other one. -/
structure GivesOnly {κ α : Type} (data? : κ → Option α) (key : κ) (data : α) : Prop where
  given : data? key = some data
  only : ∀ other, (data? other).isSome → other = key

variable {κ α : Type}

theorem filterMap_eq_entry_iff {data? : κ → Option α} {keys : List κ} (hnodup : keys.Nodup)
    (hall : ∀ key, key ∈ keys) {key : κ} {data : α} :
    keys.filterMap (fun key => (data? key).map (key, ·)) = [(key, data)] ↔
      GivesOnly data? key data := by
  have hnone : ∀ key, (data? key).map (key, ·) = none ↔ data? key = none :=
    fun _ => Option.map_eq_none_iff
  constructor
  · intro hentry
    obtain ⟨before, found, after, rfl, hbefore, hfound, hafter⟩ :=
      List.filterMap_eq_cons_iff.1 hentry
    obtain ⟨given, hgiven, heq⟩ := Option.map_eq_some_iff.1 hfound
    cases heq
    refine ⟨hgiven, fun other hother => ?_⟩
    -- a second key with data would stand before or behind the one that was found
    have hsome : data? other ≠ none := Option.isSome_iff_ne_none.1 hother
    rcases List.mem_append.1 (hall other) with hin | hin
    · exact absurd ((hnone other).1 (hbefore other hin)) hsome
    · rcases List.mem_cons.1 hin with rfl | hin
      · rfl
      · exact absurd ((hnone other).1 (List.filterMap_eq_nil_iff.1 hafter other hin)) hsome
  · rintro ⟨hgiven, honly⟩
    obtain ⟨before, after, rfl⟩ := List.append_of_mem (hall key)
    have hother : ∀ other ∈ before ++ after, data? other = none := by
      intro other hin
      have hne : other ≠ key := by
        rintro rfl
        exact (List.nodup_cons.1 (List.nodup_middle.1 hnodup)).1 hin
      exact Option.not_isSome_iff_eq_none.1 fun hsome => hne (honly other hsome)
    refine List.filterMap_eq_cons_iff.2 ⟨before, key, after, rfl, fun other hin => ?_, ?_, ?_⟩
    · exact (hnone other).2 (hother other (List.mem_append_left _ hin))
    · rw [hgiven, Option.map_some]
    · refine List.filterMap_eq_nil_iff.2 fun other hin => (hnone other).2 ?_
      exact hother other (List.mem_append_right _ hin)

/-! ## What a criterion states -/

def Target.operators : Target → List Operator
  | .status => [.equal, .notEqual, .oneOf, .notOneOf]
  | .body | .json => [.equal, .notEqual, .contains, .notContains]
  | .header | .headers => Operator.all

theorem Target.supports_iff (target : Target) (operator : Operator) :
    target.supports operator = true ↔ operator ∈ target.operators := by
  cases target <;> cases operator <;> decide

theorem Target.mem_all (target : Target) : target ∈ Target.all := by
  cases target <;> decide

theorem Operator.mem_all (operator : Operator) : operator ∈ Operator.all := by
  cases operator <;> decide

namespace Criterion

def operands? (criterion : Criterion) : Operator → Option (List Value)
  | .equal => criterion.equal.map ([·])
  | .notEqual => criterion.notEqual.map ([·])
  | .contains => criterion.contains.map ([·])
  | .notContains => criterion.notContains.map ([·])
  | .oneOf => criterion.oneOf
  | .notOneOf => criterion.notOneOf
  | .length => criterion.length.map fun size => [.ofInt size.toNat]
  | .empty => if criterion.empty then some [] else none
  | .notEmpty => if criterion.notEmpty then some [] else none

theorem map_assertions (criterion : Criterion) :
    criterion.assertions.map (fun assertion => (assertion.operator, assertion.arguments))
      = Operator.all.filterMap fun operator =>
          (criterion.operands? operator).map (operator, ·) := by
  have hflag : ∀ (flag : Bool) (assertion : Assertion),
      (if flag then [assertion] else []) = (if flag then some assertion else none).toList := by
    intro flag assertion
    cases flag <;> rfl
  simp only [assertions, hflag, Operator.all, List.filterMap_eq_flatMap_toList, List.flatMap_cons,
    List.flatMap_nil, List.append_nil, List.map_append, ← Option.toList_map, Option.map_map,
    operands?, List.append_assoc]
  -- each assertion is its operator with its operands
  cases criterion.empty <;> cases criterion.notEmpty <;> rfl

/-- The criterion states an operator with its operands, and no other one. -/
def States (criterion : Criterion) : Operator → List Value → Prop := GivesOnly criterion.operands?

theorem assertion_eq_ok_iff {criterion : Criterion} {assertion : Assertion} :
    criterion.assertion = .ok assertion ↔ criterion.assertions = [assertion] := by
  unfold Criterion.assertion
  split
  next other hone => simp [hone]
  next hnone => simp [hnone]
  next hseveral _ => exact iff_of_false nofun (hseveral assertion)

theorem states_iff {criterion : Criterion} {operator : Operator} {operands : List Value} :
    criterion.States operator operands ↔ ∃ assertion, criterion.assertion = .ok assertion ∧
      assertion.operator = operator ∧ assertion.arguments = operands := by
  have hentry : Operator.all.filterMap (fun operator =>
        (criterion.operands? operator).map (operator, ·)) = [(operator, operands)] ↔
      GivesOnly criterion.operands? operator operands :=
    filterMap_eq_entry_iff (by decide) Operator.mem_all
  rw [States, ← hentry, ← map_assertions, List.map_eq_singleton_iff]
  refine exists_congr fun assertion => ?_
  rw [assertion_eq_ok_iff, Prod.mk.injEq]

end Criterion

namespace Expectation

def criterion? (expectation : Expectation) : Target → Option Criterion
  | .status => expectation.status
  | .header => expectation.header
  | .headers => expectation.headers
  | .body => expectation.body
  | .json => expectation.json

/-- The expectation names a part of the response with what is stated about it, and no other one. -/
def Names (expectation : Expectation) : Target → Criterion → Prop :=
  GivesOnly expectation.criterion?

theorem names_iff {expectation : Expectation} {target : Target} {criterion : Criterion} :
    expectation.Names target criterion ↔ expectation.criteria = [(target, criterion)] := by
  have hcriteria : expectation.criteria = Target.all.filterMap fun target =>
      (expectation.criterion? target).map (target, ·) := by
    simp only [criteria, criterion?, Target.all, List.filterMap_eq_flatMap_toList,
      List.flatMap_cons, List.flatMap_nil, List.append_nil, List.append_assoc]
  rw [hcriteria]
  exact (filterMap_eq_entry_iff (by decide) Target.mem_all).symm

/-- A step comes from the one part of the response that is named. -/
theorem step_eq_ok_iff {expectation : Expectation} {step : Step} :
    expectation.step = .ok step ↔ ∃ target criterion,
      expectation.criteria = [(target, criterion)] ∧ criterion.step target = .ok step := by
  unfold Expectation.step
  split
  next target criterion hone =>
    rw [hone]
    constructor
    · exact fun hstep => ⟨target, criterion, rfl, hstep⟩
    · rintro ⟨_, _, heq, hstep⟩
      cases heq
      exact hstep
  next hother =>
    refine iff_of_false nofun ?_
    rintro ⟨target, criterion, hone, -⟩
    exact hother target criterion hone

end Expectation

/-! ## The step of a criterion -/

theorem ExpectChain.isSome_unbound?_iff {bound : Option String} {assertion : Assertion} :
    (unbound? bound assertion).isSome ↔
      bound = none ∧ (assertion.operator = .oneOf ∨ assertion.operator = .notOneOf) := by
  cases assertion <;> cases bound <;> simp [unbound?, Assertion.operator]

namespace Criterion

/-- The chain leads to a part of the response and states an assertion about it. -/
inductive Asserts (criterion : Criterion) : Target → Assertion → ExpectChain .done → Prop where
  | status {assertion : Assertion} (supported : Target.status.supports assertion.operator) :
      Asserts criterion .status assertion (.statusIs (.status .expect) assertion supported)
  | body {assertion : Assertion} (supported : Target.body.supports assertion.operator) :
      Asserts criterion .body assertion (.bodyIs (.body .expect) assertion supported)
  | json {assertion : Assertion} (supported : Target.json.supports assertion.operator) :
      Asserts criterion .json assertion
        (.jsonIs (.json (.body .expect)) criterion.path assertion supported)
  | header {assertion : Assertion} {name : String} (hname : criterion.name = some name) :
      Asserts criterion .header assertion (.headerIs (.header .expect name) assertion)
  | allHeaders {assertion : Assertion} (hname : criterion.name = none) :
      Asserts criterion .headers assertion (.headersAre (.headers .expect) assertion)
  | oneHeader {assertion : Assertion} {name : String} (hname : criterion.name = some name) :
      Asserts criterion .headers assertion (.headersAre (.get (.headers .expect) name) assertion)

/-- The criterion is about a part of the response that can be found. -/
def IsPlaced (criterion : Criterion) (target : Target) : Prop :=
  target = .header → criterion.name.isSome

variable {criterion : Criterion} {target : Target}

theorem supportedAssertion_eq_ok_iff {assertion : Assertion}
    (supported : target.supports assertion.operator) :
    criterion.supportedAssertion target = .ok ⟨assertion, supported⟩ ↔
      criterion.assertion = .ok assertion := by
  unfold supportedAssertion
  cases criterion.assertion with
  | error fault => exact iff_of_false nofun nofun
  | ok other =>
    dsimp only
    split
    next => simp
    next hnot =>
      refine iff_of_false nofun fun heq => hnot ?_
      cases heq
      exact supported

/-- A step is declared by the chain that states the one thing which is stated. -/
theorem step_eq_ok_iff {step : Step} : criterion.step target = .ok step ↔
    ∃ assertion chain, criterion.assertion = .ok assertion ∧
      criterion.Asserts target assertion chain ∧ step = chain.step := by
  constructor
  · intro h
    cases target with
    | status =>
      obtain ⟨⟨assertion, supported⟩, hsupported, rfl⟩ := Result.exists_of_map h
      have hassertion := (supportedAssertion_eq_ok_iff supported).1 hsupported
      exact ⟨assertion, _, hassertion, .status supported, rfl⟩
    | body =>
      obtain ⟨⟨assertion, supported⟩, hsupported, rfl⟩ := Result.exists_of_map h
      have hassertion := (supportedAssertion_eq_ok_iff supported).1 hsupported
      exact ⟨assertion, _, hassertion, .body supported, rfl⟩
    | json =>
      obtain ⟨⟨assertion, supported⟩, hsupported, rfl⟩ := Result.exists_of_map h
      have hassertion := (supportedAssertion_eq_ok_iff supported).1 hsupported
      exact ⟨assertion, _, hassertion, .json supported, rfl⟩
    | header =>
      cases hname : criterion.name with
      | none =>
        rw [Criterion.step, hname] at h
        cases h
      | some name =>
        rw [Criterion.step, hname] at h
        obtain ⟨assertion, hassertion, rfl⟩ := Result.exists_of_map h
        exact ⟨assertion, _, hassertion, .header hname, rfl⟩
    | headers =>
      obtain ⟨assertion, hassertion, rfl⟩ := Result.exists_of_map h
      cases hname : criterion.name with
      | none => exact ⟨assertion, _, hassertion, .allHeaders hname, rfl⟩
      | some name => exact ⟨assertion, _, hassertion, .oneHeader hname, rfl⟩
  · rintro ⟨assertion, chain, hassertion, hasserts, rfl⟩
    cases hasserts with
    | status supported | body supported | json supported =>
      rw [Criterion.step, (supportedAssertion_eq_ok_iff supported).2 hassertion]
      rfl
    | header hname | allHeaders hname | oneHeader hname =>
      rw [Criterion.step, hname, hassertion]
      rfl

theorem exists_asserts_iff {assertion : Assertion} :
    (∃ chain, criterion.Asserts target assertion chain) ↔
      target.supports assertion.operator ∧ criterion.IsPlaced target := by
  constructor
  · rintro ⟨chain, hasserts⟩
    cases hasserts with
    | status supported | body supported | json supported => exact ⟨supported, nofun⟩
    | header hname => exact ⟨rfl, fun _ => hname ▸ rfl⟩
    | allHeaders | oneHeader => exact ⟨rfl, nofun⟩
  · rintro ⟨supported, hplaced⟩
    cases target with
    | status => exact ⟨_, .status supported⟩
    | body => exact ⟨_, .body supported⟩
    | json => exact ⟨_, .json supported⟩
    | header =>
      obtain ⟨name, hname⟩ := Option.isSome_iff_exists.1 (hplaced rfl)
      exact ⟨_, .header hname⟩
    | headers =>
      cases hname : criterion.name with
      | none => exact ⟨_, .allHeaders hname⟩
      | some name => exact ⟨_, .oneHeader hname⟩

/-! ## What the step declares -/

def leadingCalls (criterion : Criterion) : Target → List Segment
  | .status => [⟨"expect", []⟩, ⟨"status", []⟩]
  | .header => [⟨"expect", []⟩, ⟨"header", (criterion.name.map .string).toList⟩]
  | .headers =>
      [⟨"expect", []⟩, ⟨"headers", []⟩]
        ++ (criterion.name.map fun name => (⟨"get", [.string name]⟩ : Segment)).toList
  | .body => [⟨"expect", []⟩, ⟨"body", []⟩]
  | .json => [⟨"expect", []⟩, ⟨"body", []⟩, ⟨"json", []⟩]

/-- The call of an operator. In a document the place comes before the operands. -/
def operatorCall (criterion : Criterion) (operator : Operator) (operands : List Value) :
    Target → Segment
  | .json => ⟨operator.name, .string criterion.path :: operands⟩
  | _ => ⟨operator.name, operands⟩

/-- The step is an expectation, declared by the calls that lead to a part of the response and the
call of an operator, and misused if that chooses among candidates for all headers. -/
structure Declares (criterion : Criterion) (target : Target) (operator : Operator)
    (operands : List Value) (step : Step) : Prop where
  phase_eq : step.phase = .expect
  path_eq : step.path = some
    ⟨criterion.leadingCalls target ++ [criterion.operatorCall operator operands target]⟩
  fails_iff : (∃ message, step.action = .fail message) ↔
    target = .headers ∧ criterion.name = none ∧ (operator = .oneOf ∨ operator = .notOneOf)

theorem Declares.of_stage {operator : Operator} {operands : List Value} {stage : Stage}
    {effect : Effect}
    (hpath : stage.path = ⟨criterion.leadingCalls target
      ++ [criterion.operatorCall operator operands target]⟩)
    (hmisuse : stage.misuse.isSome ↔
      target = .headers ∧ criterion.name = none ∧ (operator = .oneOf ∨ operator = .notOneOf)) :
    criterion.Declares target operator operands (stage.step .expect effect) where
  phase_eq := Stage.phase_stepWith _ _ _
  path_eq := by rw [Stage.step, Stage.path_stepWith, hpath]
  fails_iff := by
    -- a check never fails before it runs, and a misuse always does
    rw [← hmisuse, Stage.step, Stage.stepWith]
    cases stage.misuse with
    | none => exact iff_of_false (by rintro ⟨_, hfail⟩; cases hfail) Bool.false_ne_true
    | some misuse => exact iff_of_true ⟨misuse.message, rfl⟩ rfl

theorem Asserts.declares {assertion : Assertion} {chain : ExpectChain .done}
    (h : criterion.Asserts target assertion chain) :
    criterion.Declares target assertion.operator assertion.arguments chain.step := by
  -- off the headers nothing is misused
  have hclean : ∀ {condition : Prop}, target ≠ .headers →
      ((none : Option Misuse).isSome ↔ target = .headers ∧ condition) :=
    fun hne => iff_of_false Bool.false_ne_true fun hboth => hne hboth.1
  cases h with
  | status | body | json => exact .of_stage rfl (hclean nofun)
  | header hname =>
    refine .of_stage ?_ (hclean nofun)
    rw [leadingCalls, hname]
    rfl
  | allHeaders hname | oneHeader hname =>
    refine .of_stage ?_ ?_
    · rw [leadingCalls, hname]
      rfl
    · rw [hname, eq_self, true_and]
      exact ExpectChain.isSome_unbound?_iff

end Criterion

/-! ## The step of an expectation -/

namespace Expectation

/-- The expectation names one part of the response and states one thing about it, which is supported
and can be found. -/
structure IsComplete (expectation : Expectation) (target : Target) (criterion : Criterion)
    (operator : Operator) (operands : List Value) : Prop where
  names : expectation.Names target criterion
  states : criterion.States operator operands
  supported : operator ∈ target.operators
  placed : criterion.IsPlaced target

variable {expectation : Expectation} {target : Target} {criterion : Criterion} {operator : Operator}
  {operands : List Value}

theorem IsComplete.exists_step (h : expectation.IsComplete target criterion operator operands) :
    ∃ step, expectation.step = .ok step ∧ criterion.Declares target operator operands step := by
  obtain ⟨assertion, hassertion, hoperator, hoperands⟩ := Criterion.states_iff.1 h.states
  subst hoperator hoperands
  have hsupports := (target.supports_iff assertion.operator).2 h.supported
  obtain ⟨chain, hasserts⟩ := Criterion.exists_asserts_iff.2 ⟨hsupports, h.placed⟩
  have hstep := Criterion.step_eq_ok_iff.2 ⟨assertion, chain, hassertion, hasserts, rfl⟩
  exact ⟨chain.step, step_eq_ok_iff.2 ⟨target, criterion, names_iff.1 h.names, hstep⟩,
    hasserts.declares⟩

theorem exists_isComplete {step : Step} (h : expectation.step = .ok step) :
    ∃ target criterion operator operands,
      expectation.IsComplete target criterion operator operands := by
  obtain ⟨target, criterion, hcriteria, hstep⟩ := step_eq_ok_iff.1 h
  obtain ⟨assertion, chain, hassertion, hasserts, -⟩ := Criterion.step_eq_ok_iff.1 hstep
  obtain ⟨hsupports, hplaced⟩ := Criterion.exists_asserts_iff.1 ⟨chain, hasserts⟩
  have hstates := Criterion.states_iff.2 ⟨assertion, hassertion, rfl, rfl⟩
  exact ⟨target, criterion, assertion.operator, assertion.arguments, names_iff.2 hcriteria, hstates,
    (target.supports_iff assertion.operator).1 hsupports, hplaced⟩

/-- An expectation stands for a step exactly if it is complete, and then for the one that the calls
of an expect chain to the part it names and of the operator it states declare. -/
theorem step_iff_complete (expectation : Expectation) :
    ((∃ step, expectation.step = .ok step) ↔ ∃ target criterion operator operands,
      expectation.IsComplete target criterion operator operands) ∧
    ∀ step, expectation.step = .ok step → ∀ target criterion operator operands,
      expectation.IsComplete target criterion operator operands →
        criterion.Declares target operator operands step := by
  refine ⟨⟨?_, ?_⟩, ?_⟩
  · rintro ⟨step, hstep⟩
    exact exists_isComplete hstep
  · rintro ⟨target, criterion, operator, operands, hcomplete⟩
    obtain ⟨step, hstep, -⟩ := hcomplete.exists_step
    exact ⟨step, hstep⟩
  · intro step hstep target criterion operator operands hcomplete
    obtain ⟨other, hother, hdeclares⟩ := hcomplete.exists_step
    rw [hstep] at hother
    cases hother
    exact hdeclares

/-- Candidates for all headers, none of which is named, are complete, and misused. -/
theorem step_iff_complete_of_candidates :
    let criterion := { Criterion.blank with oneOf := some [.string "etag", .string "date"] }
    ∃ step, { blank with headers := some criterion }.step = .ok step ∧
      step.path = some ⟨[⟨"expect", []⟩, ⟨"headers", []⟩,
        ⟨"one_of", [.string "etag", .string "date"]⟩]⟩ ∧
      ∃ message, step.action = .fail message := by
  intro criterion
  have hcomplete : { blank with headers := some criterion }.IsComplete .headers criterion .oneOf
      [.string "etag", .string "date"] := by
    refine ⟨⟨rfl, fun other hother => ?_⟩, ⟨rfl, fun other hother => ?_⟩, by decide, nofun⟩
    · cases other <;> first | rfl | cases hother
    · cases other <;> first | rfl | cases hother
  obtain ⟨hiff, hdeclares⟩ := step_iff_complete { blank with headers := some criterion }
  obtain ⟨step, hstep⟩ := hiff.2 ⟨_, _, _, _, hcomplete⟩
  have hdeclared := hdeclares step hstep _ _ _ _ hcomplete
  exact ⟨step, hstep, hdeclared.path_eq, hdeclared.fails_iff.2 ⟨rfl, rfl, .inl rfl⟩⟩

end Expectation

end HttpTest
