import HttpTest.Proofs.Run.Echo
import HttpTest.Proofs.Value.ScalarText

/-!
# Values as bodies

A value is sent as a text of its own or as its document, and expected of the text of a body or of
the document in it. The two choices are not made along the same line, for scalars other than texts
are written as documents and read as texts; what they have in common is that the text of a truth
value or of an integer is read as what it was written for (`Assertion.checkBody_echoed`). Only
`null`, which leaves no body, is not found in what was sent of it
(`Run.topLevel_echo_value`).
-/

namespace HttpTest

open Pipeline

variable {value : Value}

/-! ## What is written of a scalar -/

theorem Check.equal_string (s : String) : Check.equal (.string s) (.string s) = .ok () := by
  have hmatches : (Value.string s).matchesItem (.string s) = true := by
    rw [Value.matchesItem_of_scalar rfl]
    exact Value.accepts_self_of_scalar rfl rfl
  exact Check.equal_eq_ok_iff.2 hmatches

theorem Check.equal_text_of_bool (b : Bool) :
    Check.equal (.bool b) (.string (Json.bool b).write) = .ok () := by
  cases b <;> rfl

theorem Check.equal_text_of_int (i : Int64) :
    Check.equal (.int i) (.string (Json.integer i.toInt).write) = .ok () := by
  have htext : (Json.integer i.toInt).write = String.ofList (Number.intText i.toInt) := by
    rw [Json.write, Json.text]
  rw [htext, equal_int_iff]
  exact Value.coerceTo_int_of_intText i

/-! ## The check of a body -/

namespace Assertion

theorem checkBody_equal_of_scalar (h : value.kind.isComposite = false) (response : Response) :
    (Assertion.equal value).checkBody response
      = (Check.equal value (.string response.bodyText)).toFault := by
  have hbody : response.bodyFor value = .ok (.string response.bodyText) := by
    rw [Response.bodyFor, h]
    rfl
  rw [checkBody, hbody]
  rfl

theorem checkBody_equal_of_composite (h : value.kind.isComposite = true) {response : Response}
    {document : Json} (hread : Json.readBytes response.body = .ok document) :
    (Assertion.equal value).checkBody response
      = (Check.equal value document.toValue).toFault := by
  have hbody : response.bodyFor value = .ok document.toValue := by
    rw [Response.bodyFor, h, Response.document, Response.bodyJson, hread]
    rfl
  rw [checkBody, hbody]
  rfl

/-- A value other than `null` is found in the body that was sent of it. -/
theorem checkBody_echoed (hregular : value.Regular) (hfloat : value.floatFree = true)
    (hnull : value ≠ .null) (hread : Json.readBytes value.toJson.write.toUTF8 = .ok value.toJson)
    (request : Request) :
    (Assertion.equal value).checkBody (request.setBodyValue value).echoed = .ok () := by
  have htext : ∀ (text : String) (request : Request),
      (request.setBody text.toUTF8).echoed.bodyText = text :=
    fun text _ => Text.decodeLossy_toUTF8 text
  have hcomposite : value.kind.isComposite = true →
      request.setBodyValue value = request.setBody value.toJson.write.toUTF8 →
      (Assertion.equal value).checkBody (request.setBodyValue value).echoed = .ok () := by
    intro hkind hbody
    rw [hbody, checkBody_equal_of_composite hkind hread]
    exact congrArg Check.toFault (Check.equal_normal hregular hfloat)
  -- a scalar is compared with the text of the body, anything else with its document
  cases value with
  | null => exact absurd rfl hnull
  | bool b =>
    rw [checkBody_equal_of_scalar rfl, Request.setBodyValue, htext]
    · exact congrArg Check.toFault (Check.equal_text_of_bool b)
    all_goals nofun
  | int i =>
    rw [checkBody_equal_of_scalar rfl, Request.setBodyValue, htext]
    · exact congrArg Check.toFault (Check.equal_text_of_int i)
    all_goals nofun
  | float x => cases hfloat
  | string s =>
    rw [checkBody_equal_of_scalar rfl, Request.setBodyValue, htext]
    exact congrArg Check.toFault (Check.equal_string s)
  | list items => exact hcomposite rfl rfl
  | map entries => exact hcomposite rfl rfl
  | record name fields => exact hcomposite rfl rfl

/-- `null` leaves no body, and no text can be brought into the shape of `null`. -/
theorem checkBody_echoed_null (request : Request) :
    (Assertion.equal .null).checkBody (request.setBodyValue .null).echoed
      = .error (.conversion ⟨.string "", .null⟩) := by
  have htext : (request.setBodyValue .null).echoed.bodyText = "" := by
    show Text.decodeLossy .empty = ""
    exact Text.decodeLossy_toUTF8 ""
  rw [checkBody_equal_of_scalar rfl, htext]
  rfl

end Assertion

/-! ## A value that is sent and expected -/

/-- A run over an echo that posts a value and expects it. -/
def echoValueSteps (url : String) (value : Value) : List Step :=
  [(SetupCall.request .post url).step, (SetupCall.transport .echo).step,
    (SendChain.sendValue value).step, (ExpectChain.expectValue value).step]

theorem Run.exists_topLevel_echoValueSteps (url : String) (value : Value) (context : Context) :
    ∃ reached : Context,
      reached.response
        = some ((((context.request.setMethod .post).setUrl url).setBodyValue value).echoed) ∧
      Run.topLevel (echoValueSteps url value) context
        = execute [(ExpectChain.expectValue value).step] reached := by
  have hsend : (SendChain.sendValue value).step.action = .run (.body value) := rfl
  exact exists_topLevel_echoSteps_eq hsend rfl rfl (List.forall_mem_singleton.2 ⟨rfl, _, rfl⟩)

theorem Run.exists_topLevel_echo_null (url : String) (context : Context) :
    ∃ after, Run.topLevel (echoValueSteps url .null) context
      = .ok (.error (after.failure "expect(null)" (.conversion ⟨.string "", .null⟩))) after := by
  obtain ⟨reached, hresponse, hrun⟩ := exists_topLevel_echoValueSteps url .null context
  let step := (ExpectChain.expectValue .null).step
  have hperform : step.perform.run (reached.enter step.call)
      = .ok (.error (.conversion ⟨.string "", .null⟩)) (reached.enter step.call) := by
    have hopen : (reached.enter step.call).response? = reached.response? := rfl
    show (Effect.check (Assertion.equal .null).checkBody).perform.run _ = _
    rw [Attempt.run_check, hopen, Context.response?, hresponse]
    exact congrArg (EStateM.Result.ok · _) (Assertion.checkBody_echoed_null _)
  have hown : ∀ failure, Fault.conversion ⟨.string "", .null⟩ ≠ .nested failure := by
    intro failure h
    cases h
  refine ⟨reached, ?_⟩
  rw [hrun, execute_cons_of_own hperform hown, Context.leave_enter]
  rfl

/-- A value without doubles is expected as it was sent, unless it is `null`. Where what is written
for its document reads as that document, a run that posts it to any address over an echo and expects
it passes; with `null` it ends in the fault that an empty text is not `null`. -/
theorem Run.topLevel_echo_value (hregular : value.Regular) (hfloat : value.floatFree = true)
    (hread : Json.readBytes value.toJson.write.toUTF8 = .ok value.toJson) (url : String)
    (context : Context) :
    (value ≠ .null → ∃ after,
      Run.topLevel (echoValueSteps url value) context = .ok (.ok ()) after) ∧
    (value = .null → ∃ after,
      Run.topLevel (echoValueSteps url value) context
        = .ok (.error (after.failure "expect(null)" (.conversion ⟨.string "", .null⟩))) after) := by
  constructor
  · intro hnull
    obtain ⟨reached, hresponse, hrun⟩ := exists_topLevel_echoValueSteps url value context
    have hcheck := Assertion.checkBody_echoed hregular hfloat hnull hread
      ((context.request.setMethod .post).setUrl url)
    rw [hrun]
    exact ⟨reached, execute_of_checks_ok hresponse
      (List.forall_mem_singleton.2 ⟨_, rfl, hcheck⟩)⟩
  · rintro rfl
    exact exists_topLevel_echo_null url context

/-- A record in a list, between an integer and a text that reads as one. -/
theorem Run.topLevel_echo_lines :
    let lines := Value.list [.int (-7), .record "Line" [("sku", .string "b"), ("a", .bool true)],
      .string "3", .null]
    ∃ after, Run.topLevel (echoValueSteps "/orders" lines) (.new .standard)
      = .ok (.ok ()) after := by
  intro lines
  have hregular : lines.Regular := by decide
  have hread : Json.readBytes lines.toJson.write.toUTF8 = .ok lines.toJson := by decide +kernel
  exact (topLevel_echo_value hregular rfl hread "/orders" (.new .standard)).1 nofun

/-- The body that is sent of `null` is not `null`. -/
theorem Run.not_topLevel_echo_value :
    ¬ ∀ value : Value, value.Regular → value.floatFree = true →
      Json.readBytes value.toJson.write.toUTF8 = .ok value.toJson → ∀ (url : String),
      ∃ after, Run.topLevel (echoValueSteps url value) (.new .standard) = .ok (.ok ()) after := by
  intro hall
  have hread : Json.readBytes Value.null.toJson.write.toUTF8 = .ok Value.null.toJson := by
    decide +kernel
  obtain ⟨after, hpasses⟩ := hall .null (Value.Regular.scalar rfl) rfl hread ""
  obtain ⟨reached, hfails⟩ := exists_topLevel_echo_null "" (.new .standard)
  cases hpasses.symm.trans hfails

end HttpTest
