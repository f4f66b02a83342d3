import HttpTest.Chain.Clear
import HttpTest.Proofs.Chain.Calls

/-!
# The first offence of a chain

A chain is a list of calls. Some calls must not follow others, and some must not be the last:
`misuseAt?` finds these places from the calls alone, with no regard to how far a chain has come. The
stages of chains note misuses one by one as calls are made, and what a stage holds in the end is the
first of them (`Chain.misuse_stage`), so it is the first one that the step reports.
-/

namespace HttpTest

/-! ## Calls and their places -/

structure Call where
  method : String
  arguments : List Value

namespace Call

/-- The calls that take a value where a chain can go on, each with its name in a path. -/
def valueCalls : List (String × String) :=
  [("send_value", "send"), ("expect_value", "expect"), ("body_value", "body"),
    ("json_value", "json"), ("status_value", "status")]

def takesValue (call : Call) : Bool := (Dictionary.find? call.method valueCalls).isSome

def name (call : Call) : String := (Dictionary.find? call.method valueCalls).getD call.method

def segment (call : Call) : Segment := ⟨call.name, call.arguments⟩

end Call

/-- Some calls as they are written, without arguments and up to the last bracket. -/
def written (calls : List Call) : String := String.intercalate "()." (calls.map Call.name)

def isClearing (calls : List Call) : Bool := calls.head?.any (·.name == "clear")

def namesHeader (calls : List Call) : Bool := calls.any (·.method == "get")

/-- The misuse that a call is, made after others. -/
def misuseOf? (before : List Call) (call : Call) : Option Misuse :=
  if isClearing before then
    -- a clear chain must not take a value at all
    if call.takesValue then some (.afterValue (written (before ++ [call])))
    else if call.method == "get" && namesHeader before then some .getAfterGet
    else none
  -- any other chain may, but must not go on then
  else if before.getLast?.any Call.takesValue then some (.afterValue (written before))
  else if call.method == "get" && namesHeader before then some .getAfterGet
  else if before.getLast?.any (·.method == "headers") && ["one_of", "not_one_of"].contains call.method
    then some (.unboundHeader call.method)
  else none

/-- The misuse that it is to make no more calls. -/
def unfinished? (calls : List Call) : Option Misuse :=
  let last (methods : List String) : Bool := calls.getLast?.any (methods.contains ·.method)
  if isClearing calls then if last ["clear"] then some (.withoutChain "clear()") else none
  else if calls.head?.any (·.name == "send") then
    if last ["send", "body"] then some (.withoutArgument (written calls)) else none
  else if last ["expect", "body", "json", "status"] then some (.withoutArgument (written calls))
  else if last ["header"] then some (.withoutChain "expect().header(name)")
  else if last ["headers", "get"] then some (.withoutChain "expect().headers()")
  else none

/-- The misuse at a place of a chain: that of the call which is made there, or of the end. -/
def misuseAt? (calls : List Call) (place : Nat) : Option Misuse :=
  match calls[place]? with
  | some call => misuseOf? (calls.take place) call
  | none => if place = calls.length then unfinished? calls else none

/-- The first misuse among some calls, whether or not they are the last. -/
def firstMisuse? (calls : List Call) : Option Misuse :=
  (List.range calls.length).findSome? (misuseAt? calls)

/-- What is made later does not change what was made. -/
theorem misuseAt?_append {calls : List Call} {place : Nat} (h : place < calls.length)
    (more : List Call) : misuseAt? (calls ++ more) place = misuseAt? calls place := by
  simp only [misuseAt?, List.getElem?_append_left h, List.getElem?_eq_getElem h,
    List.take_append_of_le_length h.le]

theorem misuseAt?_length (calls : List Call) :
    misuseAt? calls calls.length = unfinished? calls := by
  simp [misuseAt?]

theorem firstMisuse?_concat (calls : List Call) (call : Call) :
    firstMisuse? (calls ++ [call]) = (firstMisuse? calls <|> misuseOf? calls call) := by
  have hlength : (calls ++ [call]).length = calls.length + 1 := List.length_append
  have hlast : misuseAt? (calls ++ [call]) calls.length = misuseOf? calls call := by
    simp [misuseAt?]
  -- the places before the last one are those of the calls before
  have hbefore : (List.range calls.length).findSome? (misuseAt? (calls ++ [call]))
      = firstMisuse? calls := by
    rw [firstMisuse?, ← List.head?_filterMap, ← List.head?_filterMap]
    congr 1
    exact List.filterMap_congr fun place hplace =>
      misuseAt?_append (List.mem_range.1 hplace) [call]
  rw [firstMisuse?, hlength, List.range_succ, List.findSome?_append, hbefore]
  simp [hlast]

theorem findSome?_range_eq_some_iff {α : Type} {f : Nat → Option α} {bound : Nat} {found : α} :
    (List.range bound).findSome? f = some found ↔
      ∃ i < bound, f i = some found ∧ ∀ j < i, f j = none := by
  induction bound with
  | zero => simp
  | succ bound ih =>
    rw [List.range_succ, List.findSome?_append, Option.or_eq_some_iff, ih,
      List.findSome?_eq_none_iff]
    constructor
    · rintro (⟨i, hi, h⟩ | ⟨hbefore, hlast⟩)
      · exact ⟨i, by omega, h⟩
      · exact ⟨bound, by omega, by simpa using hlast,
          fun j hj => hbefore j (List.mem_range.2 hj)⟩
    · rintro ⟨i, hi, hfound, hbefore⟩
      rcases Nat.lt_succ_iff_lt_or_eq.1 hi with hlt | rfl
      · exact .inl ⟨i, hlt, hfound, hbefore⟩
      · exact .inr ⟨fun j hj => hbefore j (List.mem_range.1 hj), by simpa using hfound⟩

theorem firstMisuse?_concat_of_eq_none {calls : List Call} {call : Call}
    (h : misuseOf? calls call = none) : firstMisuse? (calls ++ [call]) = firstMisuse? calls := by
  rw [firstMisuse?_concat, h, Option.orElse_eq_orElse, Option.orElse_eq_or, Option.or_none]

/-- The first misuse of a chain that is made of the calls and no others. -/
theorem findSome?_misuseAt? (calls : List Call) :
    (List.range (calls.length + 1)).findSome? (misuseAt? calls)
      = (firstMisuse? calls <|> unfinished? calls) := by
  rw [List.range_succ, List.findSome?_append, firstMisuse?]
  simp [misuseAt?_length]

theorem firstMisuse?_or_unfinished?_eq_some_iff {calls : List Call} {misuse : Misuse} :
    (firstMisuse? calls <|> unfinished? calls) = some misuse ↔
      ∃ i ≤ calls.length, misuseAt? calls i = some misuse ∧ ∀ j < i, misuseAt? calls j = none := by
  rw [← findSome?_misuseAt?, findSome?_range_eq_some_iff]
  simp only [Nat.lt_succ_iff]

theorem isSome_firstMisuse?_or_unfinished?_iff {calls : List Call} :
    (firstMisuse? calls <|> unfinished? calls).isSome ↔
      ∃ i ≤ calls.length, (misuseAt? calls i).isSome := by
  rw [← findSome?_misuseAt?, List.findSome?_isSome_iff]
  simp only [List.mem_range, Nat.lt_succ_iff]

theorem exists_firstMisuse?_eq_some {calls : List Call} {i : Nat} (hi : i < calls.length)
    (h : (misuseAt? calls i).isSome) : ∃ misuse, firstMisuse? calls = some misuse := by
  refine Option.isSome_iff_exists.1 ?_
  rw [firstMisuse?, List.findSome?_isSome_iff]
  exact ⟨i, List.mem_range.2 hi, h⟩

/-- The first misuse stays the first, whatever is called later. -/
theorem firstMisuse?_append {calls : List Call} {misuse : Misuse}
    (h : firstMisuse? calls = some misuse) (more : List Call) :
    firstMisuse? (calls ++ more) = some misuse := by
  induction more using List.reverseRecOn with
  | nil => rw [List.append_nil, h]
  | append_singleton more call ih =>
    rw [← List.append_assoc, firstMisuse?_concat, ih]
    rfl

/-- Away from the headers, the only misuse by a call that names no header is to go on after a value
was taken. -/
theorem misuseOf?_eq {before : List Call} {call : Call} (hroot : isClearing before = false)
    (hget : call.method ≠ "get") (hheaders : before.getLast?.any (·.method == "headers") = false) :
    misuseOf? before call
      = if before.getLast?.any Call.takesValue then some (.afterValue (written before))
        else none := by
  simp [misuseOf?, hroot, hget, hheaders]

/-- The action fails with the misuse, if there is one, and else does not fail. -/
inductive Action.Reports : Action → Option Misuse → Prop where
  | fail (misuse : Misuse) : Reports (.fail misuse.message) (some misuse)
  | run (effect : Effect) : Reports (.run effect) none
  | clear (pattern : Path) : Reports (.clear pattern) none

/-- What is noted first is reported. -/
theorem Action.Reports.stepWith {action : Action} {misuse : Option Misuse}
    (h : action.Reports misuse) (stage : Stage) (phase : Phase) :
    (stage.stepWith phase action).action.Reports (stage.misuse <|> misuse) := by
  unfold Stage.stepWith
  cases stage.misuse with
  | some misuse => exact .fail misuse
  | none => exact h

theorem Action.Reports.eq_fail_iff {action : Action} {misuse : Option Misuse}
    (h : action.Reports misuse) {message : String} :
    action = .fail message ↔ ∃ reported, misuse = some reported ∧ message = reported.message := by
  cases h <;> simp [eq_comm]

/-- An operator is named as it is called, and goes on from no value. -/
theorem Call.name_operator (operator : Operator) (arguments : List Value) :
    Call.name ⟨operator.name, arguments⟩ = operator.name := by
  cases operator <;> rfl

theorem Call.segment_operator (operator : Operator) (arguments : List Value) :
    Call.segment ⟨operator.name, arguments⟩ = ⟨operator.name, arguments⟩ := by
  rw [segment, name_operator]

theorem Call.takesValue_operator (operator : Operator) (arguments : List Value) :
    Call.takesValue ⟨operator.name, arguments⟩ = false := by
  cases operator <;> rfl

/-! ## Send chains -/

namespace SendChain

variable {place : SendPlace}

@[simp] def made {place : SendPlace} : SendChain place → List Call
  | .send => [⟨"send", []⟩]
  | .sendValue value => [⟨"send_value", [value]⟩]
  | .body chain => chain.made ++ [⟨"body", []⟩]
  | .bodyValue chain value => chain.made ++ [⟨"body_value", [value]⟩]
  | .interface chain value => chain.made ++ [⟨"interface", [value]⟩]
  | .json chain value => chain.made ++ [⟨"json", [value]⟩]
  | .header chain name value => chain.made ++ [⟨"header", [.string name, .string value]⟩]
  | .custom chain _ => chain.made ++ [⟨"custom", []⟩]
  | .bodyInterface chain value => chain.made ++ [⟨"interface", [value]⟩]
  | .bodyJson chain value => chain.made ++ [⟨"json", [value]⟩]

theorem exists_head_made (chain : SendChain place) :
    ∃ root, chain.made.head? = some root ∧ root.name = "send" := by
  induction chain with
  | send => exact ⟨_, rfl, rfl⟩
  | sendValue value => exact ⟨_, rfl, rfl⟩
  | _ =>
    -- every other call stands behind the first one
    rename_i ih
    obtain ⟨root, hroot, hname⟩ := ih
    exact ⟨root, by rw [made, List.head?_append, hroot]; rfl, hname⟩

theorem calls_eq (chain : SendChain place) : chain.calls = chain.made.map Call.segment := by
  induction chain with
  | send => rfl
  | sendValue value => rfl
  | _ =>
    rename_i ih
    rw [made, List.map_append, ← ih]
    rfl

theorem isClearing_made (chain : SendChain place) : isClearing chain.made = false := by
  obtain ⟨root, hroot, hname⟩ := chain.exists_head_made
  rw [isClearing, hroot, Option.any_some, hname]
  rfl

theorem names_made_root (chain : SendChain .root) : chain.made.map Call.name = ["send"] := by
  cases chain <;> rfl

theorem written_made (chain : SendChain place) (h : place ≠ .done) :
    written chain.made = callName place := by
  cases chain with
  | send => rfl
  | sendValue value => rfl
  | body root | bodyValue root value =>
    rw [written, made, List.map_append, names_made_root]
    rfl
  | _ => exact absurd rfl h

theorem any_takesValue_getLast?_made (chain : SendChain place) :
    chain.made.getLast?.any Call.takesValue = chain.ownValue?.isSome := by
  cases chain with
  | send => rfl
  | sendValue value => rfl
  | _ =>
    rw [made, List.getLast?_concat]
    rfl

theorem closed?_eq (chain : SendChain place) :
    chain.closed? = if chain.made.getLast?.any Call.takesValue
      then some (.afterValue (written chain.made)) else none := by
  rw [any_takesValue_getLast?_made, closed?]
  cases hvalue : chain.ownValue? with
  | none => rfl
  | some value =>
    -- a chain that has taken a value is not done
    have hplace : place ≠ .done := by
      rintro rfl
      cases chain <;> cases hvalue
    rw [chain.written_made hplace]
    rfl

/-- To go on after a value was taken is the only misuse of a send chain. -/
theorem misuseOf?_made (chain : SendChain place) {method : String} (arguments : List Value)
    (hget : method ≠ "get") : misuseOf? chain.made ⟨method, arguments⟩ = chain.closed? := by
  have hheaders : chain.made.getLast?.any (·.method == "headers") = false := by
    cases chain with
    | send => rfl
    | sendValue value => rfl
    | _ =>
      rw [made, List.getLast?_concat]
      rfl
  rw [misuseOf?_eq chain.isClearing_made hget hheaders, closed?_eq]

theorem misuse_stage (chain : SendChain place) : chain.stage.misuse = firstMisuse? chain.made := by
  induction chain with
  | send => rfl
  | sendValue value => rfl
  | _ =>
    rename_i ih
    -- the stage notes a misuse behind those before it, as the first misuse of the calls does
    rw [made, firstMisuse?_concat, misuseOf?_made _ _ (by decide), ← ih]
    rfl

theorem unfinished?_made (chain : SendChain place) :
    unfinished? chain.made = if chain.made.getLast?.any (["send", "body"].contains ·.method)
      then some (.withoutArgument (written chain.made)) else none := by
  obtain ⟨root, hroot, hname⟩ := chain.exists_head_made
  have hsend : chain.made.head?.any (·.name == "send") = true := by
    rw [hroot, Option.any_some, hname]
    rfl
  rw [unfinished?, chain.isClearing_made, hsend]
  rfl

theorem exists_step_reports (chain : SendChain place) :
    ∃ action, chain.step = chain.stage.stepWith .send action ∧
      action.Reports (unfinished? chain.made) := by
  rw [unfinished?_made]
  cases chain with
  | send => exact ⟨_, rfl, .fail _⟩
  | sendValue value => exact ⟨_, rfl, .run _⟩
  | body root =>
    refine ⟨_, rfl, ?_⟩
    have hwritten := written_made (body root) nofun
    rw [hwritten, made, List.getLast?_concat]
    exact .fail _
  | _ =>
    refine ⟨_, rfl, ?_⟩
    rw [made, List.getLast?_concat]
    exact .run _

end SendChain

/-! ## Expect chains -/

namespace ExpectChain

variable {place : ExpectPlace}

@[simp] def made {place : ExpectPlace} : ExpectChain place → List Call
  | .expect => [⟨"expect", []⟩]
  | .expectValue value => [⟨"expect_value", [value]⟩]
  | .body chain => chain.made ++ [⟨"body", []⟩]
  | .bodyValue chain value => chain.made ++ [⟨"body_value", [value]⟩]
  | .interface chain value => chain.made ++ [⟨"interface", [value]⟩]
  | .header chain name => chain.made ++ [⟨"header", [.string name]⟩]
  | .headers chain => chain.made ++ [⟨"headers", []⟩]
  | .get chain name => chain.made ++ [⟨"get", [.string name]⟩]
  | .status chain => chain.made ++ [⟨"status", []⟩]
  | .statusValue chain code => chain.made ++ [⟨"status_value", [code]⟩]
  | .custom chain _ => chain.made ++ [⟨"custom", []⟩]
  | .json chain => chain.made ++ [⟨"json", []⟩]
  | .jsonValue chain value => chain.made ++ [⟨"json_value", [value]⟩]
  | .bodyIs chain assertion _ => chain.made ++ [⟨assertion.operator.name, assertion.arguments⟩]
  | .jsonIs chain expression assertion _ =>
      chain.made ++ [⟨assertion.operator.name, .string expression :: assertion.arguments⟩]
  | .headerIs chain assertion => chain.made ++ [⟨assertion.operator.name, assertion.arguments⟩]
  | .headersAre chain assertion => chain.made ++ [⟨assertion.operator.name, assertion.arguments⟩]
  | .statusIs chain assertion _ => chain.made ++ [⟨assertion.operator.name, assertion.arguments⟩]

theorem exists_head_made (chain : ExpectChain place) :
    ∃ root, chain.made.head? = some root ∧ root.name = "expect" := by
  induction chain with
  | expect => exact ⟨_, rfl, rfl⟩
  | expectValue value => exact ⟨_, rfl, rfl⟩
  | _ =>
    rename_i ih
    obtain ⟨root, hroot, hname⟩ := ih
    exact ⟨root, by rw [made, List.head?_append, hroot]; rfl, hname⟩

theorem calls_eq (chain : ExpectChain place) : chain.calls = chain.made.map Call.segment := by
  induction chain with
  | expect => rfl
  | expectValue value => rfl
  | bodyIs chain assertion supported ih | headerIs chain assertion ih | headersAre chain assertion ih
  | statusIs chain assertion supported ih | jsonIs chain expression assertion supported ih =>
    rw [made, List.map_append, ← ih, List.map_singleton, Call.segment_operator]
    rfl
  | _ =>
    rename_i ih
    rw [made, List.map_append, ← ih]
    rfl

theorem isClearing_made (chain : ExpectChain place) : isClearing chain.made = false := by
  obtain ⟨root, hroot, hname⟩ := chain.exists_head_made
  rw [isClearing, hroot, Option.any_some, hname]
  rfl

theorem names_made_root (chain : ExpectChain .root) : chain.made.map Call.name = ["expect"] := by
  cases chain <;> rfl

theorem names_made_body (chain : ExpectChain .body) :
    chain.made.map Call.name = ["expect", "body"] := by
  cases chain <;> rw [made, List.map_append, names_made_root] <;> rfl

theorem written_made (chain : ExpectChain place) (hdone : place ≠ .done)
    (hheader : place ≠ .header) (hheaders : place ≠ .headers) :
    written chain.made = callName place := by
  cases chain with
  | expect => rfl
  | expectValue value => rfl
  | body root | bodyValue root value | status root | statusValue root code =>
    rw [written, made, List.map_append, names_made_root]
    rfl
  | json before | jsonValue before value =>
    rw [written, made, List.map_append, names_made_body]
    rfl
  | header root name => exact absurd rfl hheader
  | headers root => exact absurd rfl hheaders
  | get before name => exact absurd rfl hheaders
  | _ => exact absurd rfl hdone

theorem any_takesValue_getLast?_made (chain : ExpectChain place) :
    chain.made.getLast?.any Call.takesValue = chain.ownValue?.isSome := by
  cases chain with
  | expect => rfl
  | expectValue value => rfl
  | bodyIs chain assertion supported | headerIs chain assertion | headersAre chain assertion
  | statusIs chain assertion supported | jsonIs chain expression assertion supported =>
    rw [made, List.getLast?_concat, Option.any_some, Call.takesValue_operator]
    rfl
  | _ =>
    rw [made, List.getLast?_concat]
    rfl

theorem closed?_eq (chain : ExpectChain place) :
    chain.closed? = if chain.made.getLast?.any Call.takesValue
      then some (.afterValue (written chain.made)) else none := by
  rw [any_takesValue_getLast?_made, closed?]
  cases hvalue : chain.ownValue? with
  | none => rfl
  | some value =>
    -- neither at the headers nor when it is done has a chain just taken a value
    rw [written_made]
    · rfl
    all_goals
      rintro rfl
      cases chain <;> cases hvalue

/-- Away from the headers, to go on after a value was taken is the only misuse. -/
theorem misuseOf?_made (chain : ExpectChain place) (hplace : place ≠ .headers) {method : String}
    (arguments : List Value) (hget : method ≠ "get") :
    misuseOf? chain.made ⟨method, arguments⟩ = chain.closed? := by
  have hheaders : chain.made.getLast?.any (·.method == "headers") = false := by
    cases chain with
    | expect => rfl
    | expectValue value => rfl
    | headers root => exact absurd rfl hplace
    | get before name => exact absurd rfl hplace
    | bodyIs chain assertion supported | headerIs chain assertion | headersAre chain assertion
    | statusIs chain assertion supported | jsonIs chain expression assertion supported =>
      rw [made, List.getLast?_concat]
      cases assertion <;> rfl
    | _ =>
      rw [made, List.getLast?_concat]
      rfl
  rw [misuseOf?_eq chain.isClearing_made hget hheaders, closed?_eq]

/-- At the headers a header is bound if `get` was called. -/
theorem namesHeader_made (chain : ExpectChain .headers) :
    namesHeader chain.made = chain.boundHeader?.isSome := by
  cases chain with
  | headers root => cases root <;> rfl
  | get before name =>
    have hnames : namesHeader (get before name).made = true := by
      simp [made, namesHeader]
    rw [hnames, boundHeader?]
    cases before.boundHeader? <;> rfl

/-- A header is not bound if `headers` was called last. -/
theorem any_headers_getLast?_made (chain : ExpectChain .headers) :
    chain.made.getLast?.any (·.method == "headers") = chain.boundHeader?.isNone := by
  cases chain with
  | headers root => rw [made, List.getLast?_concat]; rfl
  | get before name =>
    rw [made, List.getLast?_concat, boundHeader?]
    cases before.boundHeader? <;> rfl

theorem misuseOf?_made_get (chain : ExpectChain .headers) (arguments : List Value) :
    misuseOf? chain.made ⟨"get", arguments⟩ = chain.boundHeader?.map fun _ => .getAfterGet := by
  have hvalue : chain.made.getLast?.any Call.takesValue = false := by
    rw [any_takesValue_getLast?_made]
    cases chain <;> rfl
  have hnames := chain.namesHeader_made
  -- a second `get` is a misuse, and the first is none
  cases hbound : chain.boundHeader? <;>
    simp [misuseOf?, chain.isClearing_made, hvalue, hnames, hbound]

theorem misuseOf?_made_operator (chain : ExpectChain .headers) (assertion : Assertion) :
    misuseOf? chain.made ⟨assertion.operator.name, assertion.arguments⟩
      = unbound? chain.boundHeader? assertion := by
  have hvalue : chain.made.getLast?.any Call.takesValue = false := by
    rw [any_takesValue_getLast?_made]
    cases chain <;> rfl
  have hlast := chain.any_headers_getLast?_made
  -- only two of the operators need a header
  cases assertion <;>
    simp [misuseOf?, chain.isClearing_made, hvalue, hlast, unbound?, Assertion.operator,
      Operator.name]

theorem misuse_stage (chain : ExpectChain place) :
    chain.stage.misuse = firstMisuse? chain.made := by
  induction chain with
  | expect => rfl
  | expectValue value => rfl
  | get before name ih =>
    rw [made, firstMisuse?_concat, misuseOf?_made_get, ← ih]
    rfl
  | headersAre before assertion ih =>
    rw [made, firstMisuse?_concat, misuseOf?_made_operator, ← ih]
    rfl
  | headerIs before assertion ih =>
    -- nothing is noted behind a header, which takes no value that could be gone on from
    have hclosed : before.closed? = none := by
      cases before
      rfl
    have hnone := (misuseOf?_made before nofun assertion.arguments
      assertion.operator.name_ne_get).trans hclosed
    rw [made, firstMisuse?_concat_of_eq_none hnone, ← ih]
    rfl
  | bodyIs before assertion supported ih | statusIs before assertion supported ih
  | jsonIs before expression assertion supported ih =>
    rw [made, firstMisuse?_concat, misuseOf?_made, ← ih]
    · rfl
    · exact nofun
    · exact assertion.operator.name_ne_get
  | _ =>
    rename_i ih
    rw [made, firstMisuse?_concat, misuseOf?_made, ← ih]
    · rfl
    · exact nofun
    · decide

theorem unfinished?_made (chain : ExpectChain place) :
    unfinished? chain.made
      = if chain.made.getLast?.any (["expect", "body", "json", "status"].contains ·.method)
          then some (.withoutArgument (written chain.made))
        else if chain.made.getLast?.any (["header"].contains ·.method)
          then some (.withoutChain "expect().header(name)")
        else if chain.made.getLast?.any (["headers", "get"].contains ·.method)
          then some (.withoutChain "expect().headers()")
        else none := by
  obtain ⟨root, hroot, hname⟩ := chain.exists_head_made
  have hsend : chain.made.head?.any (·.name == "send") = false := by
    rw [hroot, Option.any_some, hname]
    rfl
  rw [unfinished?, chain.isClearing_made, hsend]
  rfl

theorem exists_step_reports (chain : ExpectChain place) :
    ∃ action, chain.step = chain.stage.stepWith .expect action ∧
      action.Reports (unfinished? chain.made) := by
  rw [unfinished?_made]
  cases chain with
  | expect => exact ⟨_, rfl, .fail _⟩
  | expectValue value => exact ⟨_, rfl, .run _⟩
  | body root | json before | status root =>
    refine ⟨_, rfl, ?_⟩
    rw [written_made, made, List.getLast?_concat]
    · exact .fail _
    all_goals exact nofun
  | header root name | headers root | get before name =>
    refine ⟨_, rfl, ?_⟩
    rw [made, List.getLast?_concat]
    exact .fail _
  | bodyIs before assertion supported | headerIs before assertion | headersAre before assertion
  | statusIs before assertion supported | jsonIs before expression assertion supported =>
    refine ⟨_, rfl, ?_⟩
    rw [made, List.getLast?_concat]
    cases assertion <;> exact .run _
  | _ =>
    refine ⟨_, rfl, ?_⟩
    rw [made, List.getLast?_concat]
    exact .run _

end ExpectChain

/-! ## Clear chains -/

theorem BodyCall.name_ne_get (call : BodyCall) : call.name ≠ "get" := by
  cases call <;> decide

namespace ClearChain

variable {place : ClearPlace}

@[simp] def made {place : ClearPlace} : ClearChain place → List Call
  | .clear => [⟨"clear", []⟩]
  | .send chain => chain.made ++ [⟨"send", []⟩]
  | .sendValue chain value => chain.made ++ [⟨"send_value", [value]⟩]
  | .expect chain => chain.made ++ [⟨"expect", []⟩]
  | .expectValue chain value => chain.made ++ [⟨"expect_value", [value]⟩]
  | .sendBody chain => chain.made ++ [⟨"body", []⟩]
  | .sendBodyValue chain value => chain.made ++ [⟨"body_value", [value]⟩]
  | .sendWhole chain call arguments => chain.made ++ [⟨call.name, arguments⟩]
  | .sendHeader chain arguments => chain.made ++ [⟨"header", arguments⟩]
  | .sendCustom chain => chain.made ++ [⟨"custom", []⟩]
  | .sendBodyCall chain call arguments => chain.made ++ [⟨call.name, arguments⟩]
  | .body chain => chain.made ++ [⟨"body", []⟩]
  | .bodyValue chain value => chain.made ++ [⟨"body_value", [value]⟩]
  | .interface chain arguments => chain.made ++ [⟨"interface", arguments⟩]
  | .header chain arguments => chain.made ++ [⟨"header", arguments⟩]
  | .headers chain => chain.made ++ [⟨"headers", []⟩]
  | .get chain arguments => chain.made ++ [⟨"get", arguments⟩]
  | .status chain => chain.made ++ [⟨"status", []⟩]
  | .statusValue chain code => chain.made ++ [⟨"status_value", [code]⟩]
  | .custom chain => chain.made ++ [⟨"custom", []⟩]
  | .json chain => chain.made ++ [⟨"json", []⟩]
  | .jsonValue chain value => chain.made ++ [⟨"json_value", [value]⟩]
  | .bodyIs chain cleared _ => chain.made ++ [⟨cleared.operator.name, cleared.arguments⟩]
  | .jsonIs chain cleared _ => chain.made ++ [⟨cleared.operator.name, cleared.arguments⟩]
  | .headerIs chain cleared => chain.made ++ [⟨cleared.operator.name, cleared.arguments⟩]
  | .headersAre chain cleared => chain.made ++ [⟨cleared.operator.name, cleared.arguments⟩]
  | .statusIs chain cleared _ => chain.made ++ [⟨cleared.operator.name, cleared.arguments⟩]

theorem head?_made (chain : ClearChain place) : chain.made.head? = some ⟨"clear", []⟩ := by
  induction chain with
  | clear => rfl
  | _ =>
    rename_i ih
    rw [made, List.head?_append, ih]
    rfl

theorem isClearing_made (chain : ClearChain place) : isClearing chain.made = true := by
  rw [isClearing, chain.head?_made]
  rfl

theorem segments_stage (chain : ClearChain place) :
    chain.stage.path.segments = chain.made.map Call.segment := by
  induction chain with
  | clear => rfl
  | bodyIs before cleared supported ih | headerIs before cleared ih | headersAre before cleared ih
  | statusIs before cleared supported ih | jsonIs before cleared supported ih =>
    rw [made, List.map_append, ← ih, List.map_singleton, Call.segment_operator]
    rfl
  | sendWhole before call arguments ih | sendBodyCall before call arguments ih =>
    rw [made, List.map_append, ← ih]
    cases call <;> rfl
  | _ =>
    rename_i ih
    rw [made, List.map_append, ← ih]
    rfl

theorem names_made_send (chain : ClearChain .send) :
    chain.made.map Call.name = ["clear", "send"] := by
  cases chain with
  | send root | sendValue root value => cases root; rfl

theorem names_made_expect (chain : ClearChain .expect) :
    chain.made.map Call.name = ["clear", "expect"] := by
  cases chain with
  | expect root | expectValue root value => cases root; rfl

theorem names_made_body (chain : ClearChain .expectBody) :
    chain.made.map Call.name = ["clear", "expect", "body"] := by
  cases chain with
  | body root | bodyValue root value => rw [made, List.map_append, names_made_expect]; rfl

/-- A call that goes on and names no header is no misuse. -/
theorem misuseOf?_made (chain : ClearChain place) {method : String} {arguments : List Value}
    (hget : method ≠ "get") (hvalue : Call.takesValue ⟨method, arguments⟩ = false) :
    misuseOf? chain.made ⟨method, arguments⟩ = none := by
  simp [misuseOf?, chain.isClearing_made, hget, hvalue]

theorem misuse_taken (chain : ClearChain place) {stage : Stage} {name callName : String}
    {value : Value} {call : Call} (ih : chain.stage.misuse = firstMisuse? chain.made)
    (hstage : stage = taken chain.stage name value callName) (hvalue : call.takesValue = true)
    (hwritten : written (chain.made ++ [call]) = callName) :
    stage.misuse = firstMisuse? (chain.made ++ [call]) := by
  have hmisuse : misuseOf? chain.made call = some (.afterValue callName) := by
    simp [misuseOf?, chain.isClearing_made, hvalue, hwritten]
  rw [firstMisuse?_concat, hmisuse, ← ih, hstage]
  rfl

theorem namesHeader_made (chain : ClearChain .headers) :
    namesHeader chain.made = chain.isBound := by
  cases chain with
  | headers before =>
    cases before with
    | expect root | expectValue root value => cases root; rfl
  | get before arguments => simp [made, namesHeader, isBound]

theorem misuseOf?_made_get (chain : ClearChain .headers) (arguments : List Value) :
    misuseOf? chain.made ⟨"get", arguments⟩
      = if chain.isBound then some .getAfterGet else none := by
  have htakes : Call.takesValue ⟨"get", arguments⟩ = false := rfl
  simp [misuseOf?, chain.isClearing_made, chain.namesHeader_made, htakes]

theorem misuse_stage (chain : ClearChain place) :
    chain.stage.misuse = firstMisuse? chain.made := by
  induction chain with
  | clear => rfl
  | get before arguments ih =>
    rw [made, firstMisuse?_concat, misuseOf?_made_get, ← ih]
    rfl
  -- a value is noted under the written form of the calls up to it, which the place determines
  | sendValue root value ih | expectValue root value ih =>
    refine misuse_taken root ih rfl rfl ?_
    cases root
    rfl
  | sendBodyValue before value ih =>
    refine misuse_taken before ih rfl rfl ?_
    rw [written, List.map_append, names_made_send]
    rfl
  | bodyValue before value ih | statusValue before value ih =>
    refine misuse_taken before ih rfl rfl ?_
    rw [written, List.map_append, names_made_expect]
    rfl
  | jsonValue before value ih =>
    refine misuse_taken before ih rfl rfl ?_
    rw [written, List.map_append, names_made_body]
    rfl
  -- nothing else is noted
  | bodyIs before cleared supported ih | headerIs before cleared ih | headersAre before cleared ih
  | statusIs before cleared supported ih | jsonIs before cleared supported ih =>
    rw [made, firstMisuse?_concat_of_eq_none, ← ih]
    · rfl
    · exact before.misuseOf?_made cleared.operator.name_ne_get (Call.takesValue_operator _ _)
  | sendWhole before call arguments ih | sendBodyCall before call arguments ih =>
    rw [made, firstMisuse?_concat_of_eq_none, ← ih]
    · rfl
    · exact before.misuseOf?_made call.name_ne_get (by cases call <;> rfl)
  | _ =>
    rename_i ih
    rw [made, firstMisuse?_concat_of_eq_none, ← ih]
    · rfl
    · exact misuseOf?_made _ (by decide) rfl

/-- A bare `clear()` is the only clear chain that must go on. -/
theorem unfinished?_made (chain : ClearChain place) :
    unfinished? chain.made = if chain.made.getLast?.any (["clear"].contains ·.method)
      then some (.withoutChain "clear()") else none := by
  rw [unfinished?, chain.isClearing_made]
  rfl

theorem exists_step_reports (chain : ClearChain place) :
    ∃ action, chain.step = chain.stage.stepWith .clean action ∧
      action.Reports (unfinished? chain.made) := by
  rw [unfinished?_made]
  cases chain with
  | clear => exact ⟨_, rfl, .fail _⟩
  | bodyIs before cleared | headerIs before cleared | headersAre before cleared
  | statusIs before cleared | jsonIs before cleared =>
    refine ⟨_, rfl, ?_⟩
    rw [made, List.getLast?_concat]
    cases cleared.operator <;> exact .clear _
  | sendWhole before call arguments | sendBodyCall before call arguments =>
    refine ⟨_, rfl, ?_⟩
    rw [made, List.getLast?_concat]
    cases call <;> exact .clear _
  | _ =>
    refine ⟨_, rfl, ?_⟩
    rw [made, List.getLast?_concat]
    exact .clear _

end ClearChain

/-! ## Chains -/

inductive Chain where
  | send {place : SendPlace} (chain : SendChain place)
  | expect {place : ExpectPlace} (chain : ExpectChain place)
  | clear {place : ClearPlace} (chain : ClearChain place)

namespace Chain

def made : Chain → List Call
  | send chain => chain.made
  | expect chain => chain.made
  | clear chain => chain.made

def step : Chain → Step
  | send chain => chain.step
  | expect chain => chain.step
  | clear chain => chain.step

def stage : Chain → Stage
  | send chain => chain.stage
  | expect chain => chain.stage
  | clear chain => chain.stage

/-- The phase of a chain by the name of its first call. -/
def phases : List (String × Phase) := [("send", .send), ("expect", .expect), ("clear", .clean)]

/-- What a chain declares comes from its stage, and a misuse at its end is reported unless there was
one before. -/
theorem exists_step_reports (chain : Chain) :
    ∃ phase action, chain.step = chain.stage.stepWith phase action ∧
      action.Reports (unfinished? chain.made) ∧
      ∃ root, chain.made.head? = some root ∧ (root.name, phase) ∈ phases := by
  cases chain with
  | send chain =>
    obtain ⟨action, hstep, hreports⟩ := chain.exists_step_reports
    obtain ⟨root, hroot, hname⟩ := chain.exists_head_made
    exact ⟨.send, action, hstep, hreports, root, hroot, by rw [hname]; decide⟩
  | expect chain =>
    obtain ⟨action, hstep, hreports⟩ := chain.exists_step_reports
    obtain ⟨root, hroot, hname⟩ := chain.exists_head_made
    exact ⟨.expect, action, hstep, hreports, root, hroot, by rw [hname]; decide⟩
  | clear chain =>
    obtain ⟨action, hstep, hreports⟩ := chain.exists_step_reports
    exact ⟨.clean, action, hstep, hreports, _, chain.head?_made, by decide⟩

theorem misuse_stage (chain : Chain) : chain.stage.misuse = firstMisuse? chain.made := by
  cases chain with
  | send chain => exact chain.misuse_stage
  | expect chain => exact chain.misuse_stage
  | clear chain => exact chain.misuse_stage

theorem segments_stage (chain : Chain) :
    chain.stage.path.segments = chain.made.map Call.segment := by
  cases chain with
  | send chain => exact chain.calls_eq
  | expect chain => exact chain.calls_eq
  | clear chain => exact chain.segments_stage

/-- The action of a chain reports the first misuse of its calls. -/
theorem action_step_reports (chain : Chain) :
    chain.step.action.Reports (firstMisuse? chain.made <|> unfinished? chain.made) := by
  obtain ⟨phase, action, hstep, hreports, -⟩ := chain.exists_step_reports
  rw [hstep, ← misuse_stage]
  exact hreports.stepWith chain.stage phase

/-- The step of a chain is what its calls say: the first one gives the phase, all of them with their
arguments are the path, and the step fails if and only if a call is misused or a needed one is
missing, with the first of these misuses. What is called later changes nothing about that. -/
theorem step_of_made (chain : Chain) :
    (∃ root, chain.made.head? = some root ∧ (root.name, chain.step.phase) ∈ phases) ∧
    chain.step.path = some ⟨chain.made.map Call.segment⟩ ∧
    ((∃ message, chain.step.action = .fail message) ↔
      ∃ i ≤ chain.made.length, (misuseAt? chain.made i).isSome) ∧
    (∀ message, chain.step.action = .fail message ↔
      ∃ i ≤ chain.made.length, ∃ misuse, misuseAt? chain.made i = some misuse ∧
        (∀ j < i, misuseAt? chain.made j = none) ∧ message = misuse.message) ∧
    ∀ longer : Chain, chain.made <+: longer.made →
      (∃ i < chain.made.length, (misuseAt? chain.made i).isSome) →
        longer.step.action = chain.step.action := by
  obtain ⟨phase, action, hstep, -, root, hroot, hphase⟩ := chain.exists_step_reports
  have hreports := chain.action_step_reports
  refine ⟨⟨root, hroot, ?_⟩, ?_, ?_, fun message => ?_, ?_⟩
  · rw [hstep, Stage.phase_stepWith]
    exact hphase
  · rw [hstep, Stage.path_stepWith, ← segments_stage]
  · rw [← isSome_firstMisuse?_or_unfinished?_iff, Option.isSome_iff_exists]
    simp only [hreports.eq_fail_iff]
    exact ⟨fun ⟨_, misuse, h, _⟩ => ⟨misuse, h⟩, fun ⟨misuse, h⟩ => ⟨_, misuse, h, rfl⟩⟩
  · rw [hreports.eq_fail_iff]
    simp only [firstMisuse?_or_unfinished?_eq_some_iff]
    constructor
    · rintro ⟨misuse, ⟨i, hi, hmisuse, hbefore⟩, hmessage⟩
      exact ⟨i, hi, misuse, hmisuse, hbefore, hmessage⟩
    · rintro ⟨i, hi, misuse, hmisuse, hbefore, hmessage⟩
      exact ⟨misuse, ⟨i, hi, hmisuse, hbefore⟩, hmessage⟩
  · rintro longer ⟨more, hmore⟩ ⟨i, hi, hsome⟩
    obtain ⟨misuse, hfirst⟩ := exists_firstMisuse?_eq_some hi hsome
    -- both report the misuse that the shorter chain was the first to note
    have hshort := hreports
    have hlong := longer.action_step_reports
    rw [hfirst] at hshort
    rw [← hmore, firstMisuse?_append hfirst more] at hlong
    rw [hshort.eq_fail_iff.2 ⟨misuse, rfl, rfl⟩, hlong.eq_fail_iff.2 ⟨misuse, rfl, rfl⟩]

/-- An early misuse is reported, not the late one that the body has no value. -/
example : (send (.body (.sendValue .null))).step.action
    = .fail "only usable with send() not with send_value(value)" := rfl

end Chain

end HttpTest
