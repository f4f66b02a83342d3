import HttpTest.Proofs.Pipeline.Order
import HttpTest.Proofs.Run.Request
import HttpTest.Proofs.Value.Json

/-!
# Runs over an echo

Where the transport sends back what it was handed, the checks of a run read the body that the run
has sent. So a run that sends the document of a value without doubles and expects that value passes,
and so does everything that it then expects of a part of the document
(`Run.topLevel_echo_json`).
-/

namespace HttpTest

open Pipeline

def Request.echoed (request : Request) : Response := ⟨200, request.headers, request.body⟩

theorem Request.echoed_under (request : Request) (baseUrl : Option String) :
    (request.under baseUrl).echoed = request.echoed := by
  rw [under_eq]
  rfl

/-- The steps of a run over an echo that posts a request and checks the reply. -/
def echoSteps (url : String) (send : Step) (checks : List Step) : List Step :=
  [(SetupCall.request .post url).step, (SetupCall.transport .echo).step, send] ++ checks

section

variable {url : String} {send : Step} {effect : Effect} {checks : List Step} {context : Context}
  (hsend : send.action = .run effect)

include hsend

/-- The steps run as they are declared, with the exchange behind those that build the request. -/
theorem Run.topLevel_echoSteps (hphase : send.phase = .send)
    (hchecks : ∀ step ∈ checks, step.phase = .expect ∧ step.Checks) :
    Run.topLevel (echoSteps url send checks) context
      = execute (echoSteps url send [] ++ .exchange :: checks) context := by
  have heffects : ∀ step ∈ echoSteps url send checks, ∃ effect, step.action = .run effect := by
    simp only [echoSteps, List.cons_append, List.nil_append, List.forall_mem_cons]
    refine ⟨⟨_, rfl⟩, ⟨_, rfl⟩, ⟨effect, hsend⟩, fun step hstep => ?_⟩
    obtain ⟨-, test, htest⟩ := hchecks step hstep
    exact ⟨_, htest⟩
  have hsetup : ∀ step ∈ [(SetupCall.request .post url).step, (SetupCall.transport .echo).step],
      step.phase = .setup := by
    simp only [List.forall_mem_cons]
    exact ⟨rfl, rfl, List.forall_mem_nil _⟩
  have horder : inPhaseOrder (echoSteps url send checks) = echoSteps url send [] ++ checks :=
    inPhaseOrder_of_request hsetup (List.forall_mem_singleton.2 hphase) (List.forall_mem_nil _)
      (List.forall_mem_nil _) fun step hstep => (hchecks step hstep).1
  refine topLevel_of_resolve ?_ ?_ (fun step hstep => ?_) context
  · rw [resolve_of_effects heffects, horder]
  · simp only [echoSteps, List.cons_append, List.nil_append, List.forall_mem_cons, hphase]
    have hearly : Phase.setup ∈ phasesUpToExchange ∧ Phase.send ∈ phasesUpToExchange := by decide
    exact ⟨hearly.1, hearly.1, hearly.2, List.forall_mem_nil _⟩
  · rw [(hchecks step hstep).1]
    decide

/-- Once the request is built and exchanged, the checks read what the echo makes of it. -/
theorem Run.exists_topLevel_echoSteps_eq (hphase : send.phase = .send)
    (heffect : effect.phase? = some .send)
    (hchecks : ∀ step ∈ checks, step.phase = .expect ∧ step.Checks) :
    ∃ reached : Context,
      reached.response
        = some (effect.onRequest ((context.request.setMethod .post).setUrl url)).echoed ∧
      Run.topLevel (echoSteps url send checks) context = execute checks reached := by
  let before := echoSteps url send []
  let built := effect.onRequest ((context.request.setMethod .post).setUrl url)
  have hown : send.effect? = some effect := Step.effect?_eq_some_iff.2 hsend
  have hbefore : ∀ step ∈ before, step.Prepares := by
    simp only [before, echoSteps, List.append_nil, List.forall_mem_cons]
    exact ⟨⟨_, rfl, .inl rfl⟩, ⟨_, rfl, .inl rfl⟩, ⟨effect, hsend, .inr heffect⟩,
      List.forall_mem_nil _⟩
  have hrequest : context.request.after before = built := by
    show send.onRequest _ = _
    rw [Step.onRequest, hown]
    rfl
  have hmethod : (context.request.after before).method ≠ none := by
    rw [hrequest, Effect.method_onRequest heffect]
    exact Option.some_ne_none Method.post
  have hconnection : (context.prepared before).connection = some (.fresh .echo) := by
    -- building the request installs no other transport
    have hnone : send.effect?.bind Effect.transport? = none := by
      rw [hown, Option.bind_some]
      exact Effect.transport?_eq_none (by rw [heffect]; decide)
    have hlast : lastSet? Effect.transport? before = some .echo :=
      lastSet?_append_of_none (List.forall_mem_singleton.2 hnone)
        [(SetupCall.request .post url).step, (SetupCall.transport .echo).step]
    show ((lastSet? Effect.transport? before).map Connection.fresh <|> _) = _
    rw [hlast]
    rfl
  have hsent : ((context.request.after before).under (context.prepared before).baseUrl).echoed
      = built.echoed := by
    rw [Request.echoed_under, hrequest]
  -- an echo always replies, so the context may have had any response before
  refine ⟨(context.prepared before).exchanged (.fresh .echo), congrArg some hsent, ?_⟩
  rw [topLevel_echoSteps hsend hphase hchecks, execute_exchange hbefore hmethod hconnection]
  rfl

/-- The run passes if every check holds of the reply to the request that was built. -/
theorem Run.exists_topLevel_echoSteps (hphase : send.phase = .send)
    (heffect : effect.phase? = some .send)
    (hchecks : ∀ step ∈ checks, step.phase = .expect ∧ ∃ test, step.action = .run (.check test) ∧
      test (effect.onRequest ((context.request.setMethod .post).setUrl url)).echoed = .ok ()) :
    ∃ after, Run.topLevel (echoSteps url send checks) context = .ok (.ok ()) after := by
  have hkind : ∀ step ∈ checks, step.phase = .expect ∧ step.Checks := by
    intro step hstep
    obtain ⟨hexpect, test, haction, -⟩ := hchecks step hstep
    exact ⟨hexpect, test, haction⟩
  obtain ⟨reached, hresponse, hrun⟩ := exists_topLevel_echoSteps_eq hsend hphase heffect hkind
  rw [hrun]
  exact ⟨reached, execute_of_checks_ok hresponse fun step hstep => (hchecks step hstep).2⟩

end

/-! ## Documents -/

/-- Where a body reads as the document of a value, what an expression names in the value is also
found in the body. -/
theorem Assertion.checkDocument_of_document {value : Value} {response : Response}
    (hregular : value.Regular) (hfloat : value.floatFree = true)
    (hbody : Json.readBytes response.body = .ok value.toJson) (expression : String) :
    (Assertion.equal ((value.lookup? expression).getD .null)).checkDocument expression response
      = .ok () := by
  have hdocument : response.document = .ok value.normal := by
    rw [Response.document, Response.bodyJson, hbody]
    rfl
  have hcheck := Check.equal_lookup?_normal hregular hfloat expression
  rw [checkDocument, hdocument]
  show (Check.equal _ _).toFault = _
  rw [hcheck]
  rfl

/-- A value without doubles is expected as it was sent. Where what is written for its document reads
as that document, a run that posts it to any address over an echo and expects it passes, together
with the expectation of what any expressions name in it, which is `null` for what is not there. -/
theorem Run.topLevel_echo_json {value : Value} (hregular : value.Regular)
    (hfloat : value.floatFree = true)
    (hread : Json.readBytes value.toJson.write.toUTF8 = .ok value.toJson) (url : String)
    (expressions : List String) (context : Context) :
    ∃ after,
      Run.topLevel
        ([(SetupCall.request .post url).step,
            (SetupCall.transport .echo).step,
            (SendChain.send.json value).step,
            (ExpectChain.expect.body.jsonValue value).step]
          ++ expressions.map fun expression =>
            (ExpectChain.expect.body.json.jsonIs expression
              (.equal ((value.lookup? expression).getD .null)) rfl).step)
        context = .ok (.ok ()) after := by
  let whole : Step := (ExpectChain.expect.body.jsonValue value).step
  let part (expression : String) : Step :=
    (ExpectChain.expect.body.json.jsonIs expression
      (.equal ((value.lookup? expression).getD .null)) rfl).step
  let sent := (Effect.json value).onRequest ((context.request.setMethod .post).setUrl url)
  have hbody : Json.readBytes sent.echoed.body = .ok value.toJson := by
    show Json.readBytes (Request.setBodyJson _ value).body = _
    rw [Request.setBodyJson_eq]
    exact hread
  have hcheck := Assertion.checkDocument_of_document hregular hfloat hbody
  have hchecks : ∀ step ∈ whole :: expressions.map part, step.phase = .expect ∧
      ∃ test, step.action = .run (.check test) ∧ test sent.echoed = .ok () := by
    -- the whole value is what the empty expression names
    refine List.forall_mem_cons.2 ⟨⟨rfl, _, rfl, hcheck ""⟩, fun step hstep => ?_⟩
    obtain ⟨expression, -, rfl⟩ := List.mem_map.1 hstep
    exact ⟨rfl, _, rfl, hcheck expression⟩
  have hsend : (SendChain.send.json value).step.action = .run (.json value) := rfl
  exact exists_topLevel_echoSteps hsend rfl rfl hchecks

/-- Records in a list in a record, whose fields are not in the order of a document, with a field of
one of them and of one that is not there. -/
theorem Run.topLevel_echo_order :
    let order := Value.record "Order"
      [("lines", .list [.record "Line" [("sku", .string "b\n1"), ("qty", .int (-2))], .null]),
        ("id", .int 7)]
    ∃ after,
      Run.topLevel
        [(SetupCall.request .post "/orders").step,
          (SetupCall.transport .echo).step,
          (SendChain.send.json order).step,
          (ExpectChain.expect.body.jsonValue order).step,
          (ExpectChain.expect.body.json.jsonIs "lines.0.qty" (.equal (.int (-2))) rfl).step,
          (ExpectChain.expect.body.json.jsonIs "lines.2.qty" (.equal .null) rfl).step]
        (.new .standard) = .ok (.ok ()) after := by
  intro order
  have hregular : order.Regular := by decide
  have hread : Json.readBytes order.toJson.write.toUTF8 = .ok order.toJson := by decide +kernel
  have hfound : order.lookup? "lines.0.qty" = some (.int (-2)) := by decide +kernel
  have hmissing : order.lookup? "lines.2.qty" = none := by decide +kernel
  have hrun := topLevel_echo_json hregular rfl hread "/orders" ["lines.0.qty", "lines.2.qty"]
    (.new .standard)
  simp only [List.map_cons, List.map_nil, hfound, hmissing, Option.getD_some,
    Option.getD_none] at hrun
  exact hrun

end HttpTest
