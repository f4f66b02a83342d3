import HttpTest.Chain.Clear
import HttpTest.Proofs.Chain.Calls
import HttpTest.Proofs.Pipeline.Resolution
import HttpTest.Proofs.Value.Reflexivity

/-!
# Clear chains as mirrors

A clear chain makes the calls of the chain whose steps it removes. `ClearChain.Makes` says which
calls a clear chain makes and with which arguments; every first part of a send or expect chain can
be made (`Segment.OfChain.exists_makes`), and what makes it clears (`ClearChain.Makes.clears`). The
main theorem adds what no clear chain removes.
-/

namespace HttpTest

open Pipeline

/-- The call with its arguments, or with none where none are accepted. -/
def Segment.given (accepts : Bool) (call : Segment) : Segment :=
  if accepts then call else ⟨call.name, []⟩

theorem Segment.Narrows.given {narrowed call : Segment} (h : narrowed.Narrows call)
    (accepts : Bool) : (narrowed.given accepts).Narrows call := by
  cases accepts with
  | true => exact h
  | false => exact ⟨h.name_eq, List.nil_prefix⟩

namespace ClearChain

/-- What the chain addresses: its calls behind `clear()`. -/
def pattern {place : ClearPlace} (clearing : ClearChain place) : Path := clearing.stage.path.skip 1

/-- Which of the calls behind `clear()` accept arguments that narrow down what is addressed. -/
def acceptance {place : ClearPlace} : ClearChain place → List Bool
  | .clear => []
  | .send chain | .sendValue chain _ | .expect chain | .expectValue chain _ =>
      chain.acceptance ++ [false]
  | .sendBody chain | .sendBodyValue chain _ | .sendCustom chain => chain.acceptance ++ [false]
  | .sendWhole chain _ _ | .sendHeader chain _ => chain.acceptance ++ [true]
  | .sendBodyCall chain _ _ => chain.acceptance ++ [true]
  | .body chain | .bodyValue chain _ | .headers chain | .status chain | .statusValue chain _
  | .custom chain => chain.acceptance ++ [false]
  | .interface chain _ | .header chain _ => chain.acceptance ++ [true]
  | .get chain _ => chain.acceptance ++ [true]
  | .json chain | .jsonValue chain _ => chain.acceptance ++ [false]
  | .bodyIs chain cleared _ => chain.acceptance ++ [cleared.operator.takesArguments]
  | .jsonIs chain cleared _ => chain.acceptance ++ [cleared.operator.takesArguments]
  | .headerIs chain cleared => chain.acceptance ++ [cleared.operator.takesArguments]
  | .headersAre chain cleared => chain.acceptance ++ [cleared.operator.takesArguments]
  | .statusIs chain cleared _ => chain.acceptance ++ [cleared.operator.takesArguments]

/-- Behind `clear()` the chain makes exactly these calls, with their arguments wherever it accepts
any. A call that takes a value in place of a continuation makes none. -/
structure Makes {place : ClearPlace} (clearing : ClearChain place) (calls : List Segment) :
    Prop where
  length_eq : clearing.acceptance.length = calls.length
  segments_eq : clearing.stage.path.segments
    = ⟨"clear", []⟩ :: List.zipWith Segment.given clearing.acceptance calls

namespace Makes

variable {place next : ClearPlace} {clearing : ClearChain place} {further : ClearChain next}
  {calls : List Segment} {call : Segment} {accepts : Bool}

theorem clear : ClearChain.clear.Makes [] := ⟨rfl, rfl⟩

theorem concat (h : clearing.Makes calls)
    (hsegments : further.stage.path.segments
      = clearing.stage.path.segments ++ [call.given accepts])
    (hacceptance : further.acceptance = clearing.acceptance ++ [accepts]) :
    further.Makes (calls ++ [call]) := by
  constructor
  · rw [hacceptance, List.length_append, List.length_append, h.length_eq]
    rfl
  · rw [hsegments, hacceptance, h.segments_eq, List.zipWith_append h.length_eq]
    rfl

/-- The calls before the last one. -/
theorem of_concat {calls : List Segment} (h : further.Makes calls) {segment : Segment}
    (hsegments : further.stage.path.segments = clearing.stage.path.segments ++ [segment])
    (hacceptance : further.acceptance = clearing.acceptance ++ [accepts]) :
    ∃ before last, calls = before ++ [last] ∧ clearing.Makes before ∧
      segment = last.given accepts := by
  obtain ⟨hlength, hcalls⟩ := h
  -- the chain makes at least one call, and the last one is told from the others by its place
  rw [hacceptance, List.length_append, List.length_singleton] at hlength
  rcases List.eq_nil_or_concat' calls with rfl | ⟨before, last, rfl⟩
  · cases hlength
  · rw [List.length_append, List.length_singleton, Nat.add_right_cancel_iff] at hlength
    rw [hsegments, hacceptance, List.zipWith_append hlength, ← List.cons_append] at hcalls
    obtain ⟨hbefore, hlast⟩ := List.append_inj' hcalls rfl
    exact ⟨before, last, rfl, ⟨hlength, hbefore⟩, List.head_eq_of_cons_eq hlast⟩

end Makes

end ClearChain

/-! ## Every chain has a mirror -/

def SendPlace.cleared : SendPlace → ClearPlace
  | .root => .send
  | .body => .sendBody
  | .done => .done

def ExpectPlace.cleared : ExpectPlace → ClearPlace
  | .root => .expect
  | .body => .expectBody
  | .json => .json
  | .header => .header
  | .headers => .headers
  | .status => .status
  | .done => .done

/-- What narrows some calls narrows the last one and those before it. -/
theorem Segment.exists_of_narrows_concat {given calls : List Segment} {call : Segment}
    (h : List.Forall₂ Segment.Narrows given (calls ++ [call])) :
    ∃ before arguments, given = before ++ [⟨call.name, arguments⟩] ∧
      List.Forall₂ Segment.Narrows before calls := by
  have hbefore := List.forall₂_take_append given calls [call] h
  have hlast := List.forall₂_drop_append given calls [call] h
  obtain ⟨⟨name, arguments⟩, rest, hname, hrest, hdrop⟩ := List.forall₂_cons_right_iff.1 hlast
  rw [List.forall₂_nil_right_iff] at hrest
  refine ⟨given.take calls.length, arguments, ?_, hbefore⟩
  calc given = given.take calls.length ++ given.drop calls.length :=
        (List.take_append_drop calls.length given).symm
    _ = _ := by rw [hdrop, hrest, ← hname.name_eq]

def ClearedOperator.of (operator : Operator) (arguments : List Value) : ClearedOperator where
  operator
  arguments := if operator.takesArguments then arguments else []
  admitted := by cases operator.takesArguments <;> rfl

theorem ClearedOperator.segment_of (operator : Operator) (arguments : List Value) :
    (⟨operator.name, (ClearedOperator.of operator arguments).arguments⟩ : Segment)
      = Segment.given operator.takesArguments ⟨operator.name, arguments⟩ := by
  unfold ClearedOperator.of Segment.given
  split <;> rfl

/-- A chain that goes on by one call is mirrored if the mirrors of its calls so far can go on by
that call, with whatever arguments are accepted. -/
theorem ClearChain.exists_makes_concat {place next : ClearPlace} {name : String}
    {arguments : List Value} {given calls : List Segment} (accepts : Bool)
    (further : List Value → ClearChain place → ClearChain next)
    (hfurther : ∀ arguments clearing,
      (further arguments clearing).stage.path.segments
          = clearing.stage.path.segments ++ [Segment.given accepts ⟨name, arguments⟩] ∧
        (further arguments clearing).acceptance = clearing.acceptance ++ [accepts])
    (hcalls : ∀ {given}, List.Forall₂ Segment.Narrows given calls →
      ∃ clearing : ClearChain place, clearing.Makes given)
    (h : List.Forall₂ Segment.Narrows given (calls ++ [⟨name, arguments⟩])) :
    ∃ clearing : ClearChain next, clearing.Makes given := by
  obtain ⟨before, arguments, rfl, hbefore⟩ := Segment.exists_of_narrows_concat h
  obtain ⟨clearing, hmakes⟩ := hcalls hbefore
  obtain ⟨hsegments, hacceptance⟩ := hfurther arguments clearing
  exact ⟨further arguments clearing, hmakes.concat hsegments hacceptance⟩

theorem ClearChain.exists_makes_concat_operator {place next : ClearPlace} {arguments : List Value}
    {given calls : List Segment} (operator : Operator)
    (further : List Value → ClearChain place → ClearChain next)
    (hfurther : ∀ arguments clearing,
      (further arguments clearing).stage.path.segments = clearing.stage.path.segments
          ++ [⟨operator.name, (ClearedOperator.of operator arguments).arguments⟩] ∧
        (further arguments clearing).acceptance
          = clearing.acceptance ++ [operator.takesArguments])
    (hcalls : ∀ {given}, List.Forall₂ Segment.Narrows given calls →
      ∃ clearing : ClearChain place, clearing.Makes given)
    (h : List.Forall₂ Segment.Narrows given (calls ++ [⟨operator.name, arguments⟩])) :
    ∃ clearing : ClearChain next, clearing.Makes given := by
  refine exists_makes_concat operator.takesArguments further (fun arguments clearing => ?_) hcalls h
  rw [← ClearedOperator.segment_of]
  exact hfurther arguments clearing

theorem ClearChain.exists_makes_nil {given : List Segment}
    (h : List.Forall₂ Segment.Narrows given []) :
    ∃ clearing : ClearChain .root, clearing.Makes given := by
  rw [List.forall₂_nil_right_iff] at h
  exact ⟨.clear, h ▸ Makes.clear⟩

open ClearChain in
theorem SendChain.exists_makes {place : SendPlace} (chain : SendChain place)
    {given : List Segment} (h : List.Forall₂ Segment.Narrows given chain.calls) :
    ∃ clearing : ClearChain place.cleared, clearing.Makes given := by
  induction chain generalizing given with
  | send | sendValue value =>
    exact exists_makes_concat false (fun _ => .send) (fun _ _ => ⟨rfl, rfl⟩) exists_makes_nil h
  | body parent ih | bodyValue parent value ih =>
    exact exists_makes_concat false (fun _ => .sendBody) (fun _ _ => ⟨rfl, rfl⟩) ih h
  | interface parent value ih =>
    exact exists_makes_concat true
      (fun arguments clearing => .sendWhole clearing .interface arguments)
      (fun _ _ => ⟨rfl, rfl⟩) ih h
  | json parent value ih =>
    exact exists_makes_concat true (fun arguments clearing => .sendWhole clearing .json arguments)
      (fun _ _ => ⟨rfl, rfl⟩) ih h
  | header parent name value ih =>
    exact exists_makes_concat true (fun arguments clearing => .sendHeader clearing arguments)
      (fun _ _ => ⟨rfl, rfl⟩) ih h
  | custom parent callback ih =>
    exact exists_makes_concat false (fun _ => .sendCustom) (fun _ _ => ⟨rfl, rfl⟩) ih h
  | bodyInterface parent value ih =>
    exact exists_makes_concat true
      (fun arguments clearing => .sendBodyCall clearing .interface arguments)
      (fun _ _ => ⟨rfl, rfl⟩) ih h
  | bodyJson parent value ih =>
    exact exists_makes_concat true
      (fun arguments clearing => .sendBodyCall clearing .json arguments)
      (fun _ _ => ⟨rfl, rfl⟩) ih h

open ClearChain in
theorem ExpectChain.exists_makes {place : ExpectPlace} (chain : ExpectChain place)
    {given : List Segment} (h : List.Forall₂ Segment.Narrows given chain.calls) :
    ∃ clearing : ClearChain place.cleared, clearing.Makes given := by
  -- a call that takes a value is mirrored by the one that would have gone on
  induction chain generalizing given with
  | expect | expectValue value =>
    exact exists_makes_concat false (fun _ => .expect) (fun _ _ => ⟨rfl, rfl⟩) exists_makes_nil h
  | body parent ih | bodyValue parent value ih =>
    exact exists_makes_concat false (fun _ => .body) (fun _ _ => ⟨rfl, rfl⟩) ih h
  | interface parent value ih =>
    exact exists_makes_concat true (fun arguments clearing => .interface clearing arguments)
      (fun _ _ => ⟨rfl, rfl⟩) ih h
  | header parent name ih =>
    exact exists_makes_concat true (fun arguments clearing => .header clearing arguments)
      (fun _ _ => ⟨rfl, rfl⟩) ih h
  | headers parent ih =>
    exact exists_makes_concat false (fun _ => .headers) (fun _ _ => ⟨rfl, rfl⟩) ih h
  | get parent name ih =>
    exact exists_makes_concat true (fun arguments clearing => .get clearing arguments)
      (fun _ _ => ⟨rfl, rfl⟩) ih h
  | status parent ih | statusValue parent code ih =>
    exact exists_makes_concat false (fun _ => .status) (fun _ _ => ⟨rfl, rfl⟩) ih h
  | custom parent callback ih =>
    exact exists_makes_concat false (fun _ => .custom) (fun _ _ => ⟨rfl, rfl⟩) ih h
  | json parent ih | jsonValue parent value ih =>
    exact exists_makes_concat false (fun _ => .json) (fun _ _ => ⟨rfl, rfl⟩) ih h
  | bodyIs parent assertion supported ih =>
    exact exists_makes_concat_operator assertion.operator
      (fun arguments clearing => .bodyIs clearing (.of assertion.operator arguments) supported)
      (fun _ _ => ⟨rfl, rfl⟩) ih h
  | jsonIs parent expression assertion supported ih =>
    exact exists_makes_concat_operator assertion.operator
      (fun arguments clearing => .jsonIs clearing (.of assertion.operator arguments) supported)
      (fun _ _ => ⟨rfl, rfl⟩) ih h
  | headerIs parent assertion ih =>
    exact exists_makes_concat_operator assertion.operator
      (fun arguments clearing => .headerIs clearing (.of assertion.operator arguments))
      (fun _ _ => ⟨rfl, rfl⟩) ih h
  | headersAre parent assertion ih =>
    exact exists_makes_concat_operator assertion.operator
      (fun arguments clearing => .headersAre clearing (.of assertion.operator arguments))
      (fun _ _ => ⟨rfl, rfl⟩) ih h
  | statusIs parent assertion supported ih =>
    exact exists_makes_concat_operator assertion.operator
      (fun arguments clearing => .statusIs clearing (.of assertion.operator arguments) supported)
      (fun _ _ => ⟨rfl, rfl⟩) ih h

/-- Whatever a chain starts with, a clear chain can make these calls. -/
theorem Segment.OfChain.exists_makes {calls given : List Segment} (hcalls : OfChain calls)
    (h : List.Forall₂ Segment.Narrows given calls) :
    ∃ (place : ClearPlace) (clearing : ClearChain place), clearing.Makes given := by
  cases hcalls with
  | send chain => exact ⟨_, chain.exists_makes h⟩
  | expect chain => exact ⟨_, chain.exists_makes h⟩

/-! ## What a mirror clears -/

theorem getCount_le_concat (calls : List Segment) (call : Segment) :
    getCount calls ≤ getCount (calls ++ [call]) :=
  ((List.sublist_append_left calls [call]).map Segment.name).count_le "get"

namespace ClearChain.Makes

variable {place : ClearPlace} {clearing : ClearChain place} {calls : List Segment}

/-- A clear chain that accepts its arguments is misused by naming a second header alone. -/
theorem misuse_eq_none (h : clearing.Makes calls) (hget : getCount calls ≤ 1) :
    clearing.stage.misuse = none := by
  induction clearing generalizing calls with
  | clear => rfl
  | sendValue chain value ih | expectValue chain value ih | sendBodyValue chain value ih
  | bodyValue chain value ih | statusValue chain value ih | jsonValue chain value ih =>
    -- the value is no argument that the call accepts
    obtain ⟨before, last, rfl, hmakes, hlast⟩ := h.of_concat rfl rfl
    exact absurd (congrArg Segment.arguments hlast) (List.cons_ne_nil _ _)
  | get chain arguments ih =>
    obtain ⟨before, last, rfl, hmakes, hlast⟩ := h.of_concat rfl rfl
    have hlast : last = ⟨"get", arguments⟩ := hlast.symm
    have hbefore := (getCount_le_concat before last).trans hget
    refine Stage.misuse_note_eq_none_iff.2 ⟨ih hmakes hbefore, if_neg fun hbound => ?_⟩
    -- a header is named already only by the call before
    cases chain with
    | headers parent => cases hbound
    | get parent others =>
      obtain ⟨first, middle, rfl, -, hmiddle⟩ := hmakes.of_concat rfl rfl
      have hmiddle : middle = ⟨"get", others⟩ := hmiddle.symm
      rw [hlast, hmiddle, getCount_get, getCount_get] at hget
      omega
  | _ =>
    rename_i ih
    obtain ⟨before, last, rfl, hmakes, -⟩ := h.of_concat rfl rfl
    exact ih hmakes ((getCount_le_concat before last).trans hget)

theorem pattern_segments (h : clearing.Makes calls) :
    clearing.pattern.segments = List.zipWith Segment.given clearing.acceptance calls := by
  show clearing.stage.path.segments.drop 1 = _
  rw [h.segments_eq]
  rfl

/-- Accepting or not, the calls that are made are no wider than the ones given. -/
theorem pattern_narrows (h : clearing.Makes calls) {whole : List Segment}
    (hcalls : List.Forall₂ Segment.Narrows calls whole) :
    List.Forall₂ Segment.Narrows clearing.pattern.segments whole := by
  rw [h.pattern_segments]
  have hlength := h.length_eq
  generalize clearing.acceptance = acceptance at hlength
  clear h
  induction hcalls generalizing acceptance with
  | nil =>
    rw [List.zipWith_nil_right]
    exact .nil
  | cons hcall _ ih =>
    cases acceptance with
    | nil => cases hlength
    | cons accepts acceptance =>
      rw [List.length_cons, List.length_cons, Nat.add_right_cancel_iff] at hlength
      exact .cons (hcall.given accepts) (ih acceptance hlength)

/-- A clear chain that makes at least one call declares a clear step, if it is not misused. -/
theorem step_eq (h : clearing.Makes calls) (hne : calls ≠ []) (hget : getCount calls ≤ 1) :
    clearing.step = ⟨.clean, some clearing.stage.path, .clear clearing.pattern⟩ := by
  have hstep : clearing.step = clearing.stage.clearStep := by
    unfold step
    split
    · exact absurd (List.length_eq_zero_iff.1 h.length_eq.symm) hne
    · rfl
  rw [hstep]
  exact Stage.stepWith_of_misuse_eq_none (h.misuse_eq_none hget)

/-- A clear chain that makes the first calls of a chain addresses its step. -/
theorem clears (h : clearing.Makes calls) {path : Path} {first : List Segment}
    (hfirst : first <+: path.segments) (hnarrows : List.Forall₂ Segment.Narrows calls first)
    (hvalues : ∀ segment ∈ clearing.pattern.segments, ∀ value ∈ segment.arguments,
      value.Regular ∧ value.nanFree = true) :
    clearing.pattern.clears path = true := by
  refine Path.clears_of_narrows hfirst (h.pattern_narrows hnarrows) ?_
  intro segment hsegment value hvalue
  obtain ⟨hregular, hnan⟩ := hvalues segment hsegment value hvalue
  exact Check.equal_self hregular hnan

end ClearChain.Makes

/-! ## What no clear chain removes -/

namespace ClearChain

variable {place : ClearPlace}

/-- The call behind `clear()` is `send` or `expect`. -/
theorem exists_pattern_eq_cons (clearing : ClearChain place) (h : place ≠ .root) :
    ∃ name arguments rest, (name = "send" ∨ name = "expect") ∧
      clearing.stage.path.segments = ⟨"clear", []⟩ :: ⟨name, arguments⟩ :: rest := by
  induction clearing with
  | clear => exact absurd rfl h
  | send chain | expect chain => cases chain; exact ⟨_, _, _, by decide, rfl⟩
  | sendValue chain value | expectValue chain value => cases chain; exact ⟨_, _, _, by decide, rfl⟩
  | _ =>
    rename_i ih
    obtain ⟨name, arguments, rest, hname, hsegments⟩ := ih nofun
    exact ⟨name, arguments, _, hname, congrArg (· ++ [_]) hsegments⟩

theorem eq_pattern_of_action {clearing : ClearChain place} {pattern : Path}
    (h : clearing.step.action = .clear pattern) :
    place ≠ .root ∧ pattern = clearing.pattern := by
  unfold step at h
  split at h
  · unfold Stage.fail Stage.stepWith at h
    split at h <;> cases h
  next hclear =>
    constructor
    · rintro rfl
      cases clearing
      exact hclear rfl HEq.rfl
    · unfold Stage.clearStep Stage.stepWith at h
      split at h <;> cases h
      rfl

end ClearChain

/-- A setup or cleanup step has one call as its path, and it is neither `send` nor `expect`. -/
theorem SetupCall.exists_path_eq (call : SetupCall) : ∃ name arguments,
    call.step.path = some ⟨[⟨name, arguments⟩]⟩ ∧ name ≠ "send" ∧ name ≠ "expect" := by
  cases call with
  | request verb url => exact ⟨_, _, rfl, by cases verb <;> decide⟩
  | _ => exact ⟨_, _, rfl, by decide⟩

theorem ClearChain.isClearedBy_setup {place : ClearPlace} (clearing : ClearChain place)
    (h : place ≠ .root) (call : SetupCall) :
    call.step.isClearedBy clearing.pattern = false := by
  obtain ⟨name, arguments, hpath, hsend, hexpect⟩ := call.exists_path_eq
  obtain ⟨first, others, rest, hfirst, hsegments⟩ := clearing.exists_pattern_eq_cons h
  rw [← Bool.not_eq_true, Step.isClearedBy, hpath, Option.any_some, Path.clears_iff]
  rintro ⟨hnames, -⟩
  have hpattern : clearing.pattern.names = first :: rest.map Segment.name := by
    show (clearing.stage.path.segments.drop 1).map Segment.name = _
    rw [hsegments]
    rfl
  rw [hpattern] at hnames
  have heq : first = name := (List.cons_prefix_cons.1 hnames).1
  rcases hfirst with rfl | rfl
  · exact hsend heq.symm
  · exact hexpect heq.symm

theorem ClearChain.names_of_isClearedBy {place : ClearPlace} {clearing : ClearChain place}
    {step : Step} (h : step.isClearedBy clearing.pattern = true) :
    ∃ path, step.path = some path ∧ clearing.pattern.names <+: path.names := by
  obtain ⟨path, hpath, hclears⟩ := (Option.any_eq_true _ _).1 h
  exact ⟨path, hpath, (Path.clears_iff.1 hclears).1⟩

/-- Clear chains mirror send and expect chains. Whatever first calls of a chain that declares a step
to run are given, each with none or the first of its arguments, there is a clear chain that makes
them, and every one that does declares a clear step; steps that are declared before it resolve as if
the mirrored one were not among them. And a clear chain removes nothing but steps whose calls begin
with its own, so no setup or cleanup step. -/
theorem ClearChain.mirrors_send_and_expect :
    (∀ (step : Step) (path : Path), step.OfChain → step.path = some path →
      (∀ message, step.action ≠ .fail message) →
      ∀ first given : List Segment, first ≠ [] → first <+: path.segments →
        List.Forall₂ Segment.Narrows given first →
        (∃ (place : ClearPlace) (clearing : ClearChain place), clearing.Makes given) ∧
        ∀ (place : ClearPlace) (clearing : ClearChain place), clearing.Makes given →
          (∀ segment ∈ clearing.pattern.segments, ∀ value ∈ segment.arguments,
            value.Regular ∧ value.nanFree = true) →
          clearing.step.action = .clear clearing.pattern ∧
          ∀ before middle after : List Step,
            (∀ other ∈ before ++ step :: (middle ++ clearing.step :: after),
              ∀ message, other.action ≠ .fail message) →
            ∃ resolved,
              resolve (before ++ step :: (middle ++ clearing.step :: after)) = .ok resolved ∧
              resolve (before ++ (middle ++ clearing.step :: after)) = .ok resolved) ∧
    ∀ (place : ClearPlace) (clearing : ClearChain place) (pattern : Path),
      clearing.step.action = .clear pattern →
      ∃ keep : Step → Bool,
        (∀ before after : List Step,
          (∀ other ∈ before ++ clearing.step :: after, ∀ message, other.action ≠ .fail message) →
          resolve (before ++ clearing.step :: after) = resolve (before.filter keep ++ after)) ∧
        (∀ step, keep step = false →
          ∃ path, step.path = some path ∧ clearing.pattern.names <+: path.names) ∧
        ∀ call : SetupCall, keep call.step = true := by
  constructor
  · intro step path hchain hpath hrun first given hne hfirst hgiven
    obtain ⟨hcalls, hget⟩ := hchain.calls hpath hrun
    refine ⟨(hcalls.of_first hfirst hne).exists_makes hgiven, ?_⟩
    intro place clearing hmakes hvalues
    -- the calls that are given have the names of the first calls, so none is made where it may not
    have hgivenne : given ≠ [] := by
      rintro rfl
      exact hne (List.forall₂_nil_left_iff.1 hgiven)
    have hgivenget : getCount given ≤ 1 := by
      rw [getCount, Path.names_of_narrows hgiven]
      exact ((hfirst.map Segment.name).sublist.count_le "get").trans hget
    have hclear : clearing.step.action = .clear clearing.pattern := by
      rw [hmakes.step_eq hgivenne hgivenget]
    refine ⟨hclear, fun before middle after hsteps => ?_⟩
    have hcleared : step.isClearedBy clearing.pattern = true := by
      rw [Step.isClearedBy, hpath, Option.any_some]
      exact hmakes.clears hfirst hgiven hvalues
    have hsurvivors := survivors_of_addressed (hchain.isClear_eq_false) hcleared hclear before
      middle after
    have hothers : ∀ other ∈ before ++ (middle ++ clearing.step :: after),
        ∀ message, other.action ≠ .fail message := by
      intro other hother
      refine hsteps other ?_
      rcases List.mem_append.1 hother with hin | hin
      · exact List.mem_append_left _ hin
      · exact List.mem_append_right _ (List.mem_cons_of_mem _ hin)
    refine ⟨_, resolve_of_usageError?_eq_none (usageError?_eq_none hsteps), ?_⟩
    rw [resolve_of_usageError?_eq_none (usageError?_eq_none hothers), hsurvivors]
  · intro place clearing pattern hclear
    obtain ⟨hplace, rfl⟩ := eq_pattern_of_action hclear
    refine ⟨fun step => step.isClear || !step.isClearedBy clearing.pattern, ?_, ?_, ?_⟩
    · intro before after hsteps
      have hothers : ∀ other ∈ unaddressed clearing.pattern before ++ after,
          ∀ message, other.action ≠ .fail message := by
        intro other hother
        refine hsteps other ?_
        rcases List.mem_append.1 hother with hin | hin
        · exact List.mem_append_left _ (List.mem_filter.1 hin).1
        · exact List.mem_append_right _ (List.mem_cons_of_mem _ hin)
      rw [resolve_of_usageError?_eq_none (usageError?_eq_none hsteps), survivors_clear hclear]
      exact (resolve_of_usageError?_eq_none (usageError?_eq_none hothers)).symm
    · intro step hkeep
      rw [Bool.or_eq_false_iff, Bool.not_eq_false'] at hkeep
      exact names_of_isClearedBy hkeep.2
    · intro call
      show (_ || !call.step.isClearedBy clearing.pattern) = true
      rw [clearing.isClearedBy_setup hplace call, Bool.not_false, Bool.or_true]

/-- An assertion on a part of the document is cleared by naming the part without the value. -/
theorem ClearChain.clear_json_equal_of_expression :
    resolve
      [(ExpectChain.expect.body.json.jsonIs "Name" (.equal (.string "Joe")) rfl).step,
       (ClearChain.clear.expect.body.json.jsonIs ⟨.equal, [.string "Name"], rfl⟩ rfl).step]
      = .ok [] := by
  let chain := ExpectChain.expect.body.json.jsonIs "Name" (.equal (.string "Joe")) rfl
  let clearing := ClearChain.clear.expect.body.json.jsonIs ⟨.equal, [.string "Name"], rfl⟩ rfl
  have hgiven : List.Forall₂ Segment.Narrows
      [⟨"expect", []⟩, ⟨"body", []⟩, ⟨"json", []⟩, ⟨"equal", [.string "Name"]⟩] chain.calls :=
    .cons ⟨rfl, List.prefix_rfl⟩ <| .cons ⟨rfl, List.prefix_rfl⟩ <| .cons ⟨rfl, List.prefix_rfl⟩ <|
      .cons ⟨rfl, _, rfl⟩ .nil
  have hvalues : ∀ segment ∈ clearing.pattern.segments, ∀ value ∈ segment.arguments,
      value.Regular ∧ value.nanFree = true := by
    decide
  obtain ⟨-, hmirror⟩ := mirrors_send_and_expect.1 chain.step chain.stage.path (.expect chain) rfl
    nofun chain.calls _ nofun List.prefix_rfl hgiven
  obtain ⟨-, hresolve⟩ := hmirror _ clearing ⟨rfl, rfl⟩ hvalues
  obtain ⟨resolved, hwith, hwithout⟩ := hresolve [] [] [] (by
    intro other hother message
    rcases List.mem_pair.1 hother with rfl | rfl <;> nofun)
  exact hwith.trans (hwithout.symm.trans rfl)

end HttpTest
