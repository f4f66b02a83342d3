import HttpTest.Chain.Stage
import HttpTest.Chain.Assertion
import HttpTest.Value.Lookup

/-!
# Expect chains

`expect()` chains check the response. Each names a part of it and ends with an assertion about that
part. As with send chains, one that was given its value is complete.
-/

namespace HttpTest

namespace Response

def document (response : Response) : Except Fault Value :=
  match response.bodyJson with
  | .ok document => .ok document
  | .error e => .error (.json e)

/-- The body as it is compared with an expected value: the document for a composite value, the text
for any other. -/
def bodyFor (response : Response) (expected : Value) : Except Fault Value :=
  if expected.kind.isComposite then response.document else .ok (.string response.bodyText)

/-- The headers as they are asserted on: the value of one, or all of them as a map. -/
def headerScope (response : Response) : (name : Option String) → Value
  | some name => response.headerValue name
  | none => response.headersValue

end Response

def Check.toFault (check : Check) : Except Fault Unit :=
  match check with
  | .ok () => .ok ()
  | .error mismatch => .error (.ofMismatch mismatch)

/-- The canonical form of a header name that is searched for; any other value stays as it is. -/
def Header.canonicalNeedle : Value → Value
  | .string name => .string (Header.canonicalName name)
  | value => value

namespace Assertion

/-- The assertion about the body. An expected value decides whether the body is taken as JSON or as
text; what is searched for is searched for in the text. -/
def checkBody (assertion : Assertion) (response : Response) : Except Fault Unit :=
  match assertion with
  | .equal expected | .notEqual expected =>
    match response.bodyFor expected with
    | .ok actual => (assertion.check actual).toFault
    | .error fault => .error fault
  | assertion => (assertion.check (.string response.bodyText)).toFault

/-- The assertion about the value that an expression names in the document; what is not there is
`null`. -/
def checkDocument (assertion : Assertion) (expression : String) (response : Response) :
    Except Fault Unit :=
  match response.document with
  | .ok document => (assertion.check ((document.lookup? expression).getD .null)).toFault
  | .error fault => .error fault

/-- The assertion about one header or all of them. A header name is searched for in canonical form.
-/
def checkHeaders (assertion : Assertion) (name : Option String) (response : Response) :
    Except Fault Unit :=
  let assertion := if name.isNone then assertion.mapNeedle Header.canonicalNeedle else assertion
  (assertion.check (response.headerScope name)).toFault

def checkStatus (assertion : Assertion) (response : Response) : Except Fault Unit :=
  (assertion.check response.statusValue).toFault

end Assertion

/-- Where an expect chain has come to. -/
inductive ExpectPlace where
  | root
  | body
  | json
  | header
  | headers
  | status
  | done

inductive ExpectChain : ExpectPlace → Type where
  | expect : ExpectChain .root
  | expectValue (value : Value) : ExpectChain .root
  | body (chain : ExpectChain .root) : ExpectChain .body
  | bodyValue (chain : ExpectChain .root) (value : Value) : ExpectChain .body
  | interface (chain : ExpectChain .root) (value : Value) : ExpectChain .done
  | header (chain : ExpectChain .root) (name : String) : ExpectChain .header
  | headers (chain : ExpectChain .root) : ExpectChain .headers
  | get (chain : ExpectChain .headers) (name : String) : ExpectChain .headers
  | status (chain : ExpectChain .root) : ExpectChain .status
  | statusValue (chain : ExpectChain .root) (code : Value) : ExpectChain .status
  | custom (chain : ExpectChain .root) (callback : Callback) : ExpectChain .done
  | json (chain : ExpectChain .body) : ExpectChain .json
  | jsonValue (chain : ExpectChain .body) (value : Value) : ExpectChain .json
  | bodyIs (chain : ExpectChain .body) (assertion : Assertion)
      (supported : Target.body.supports assertion.operator) : ExpectChain .done
  | jsonIs (chain : ExpectChain .json) (expression : String) (assertion : Assertion)
      (supported : Target.json.supports assertion.operator) : ExpectChain .done
  | headerIs (chain : ExpectChain .header) (assertion : Assertion) : ExpectChain .done
  | headersAre (chain : ExpectChain .headers) (assertion : Assertion) : ExpectChain .done
  | statusIs (chain : ExpectChain .status) (assertion : Assertion)
      (supported : Target.status.supports assertion.operator) : ExpectChain .done

namespace ExpectChain

/-- The value that the last call took in place of a continuation. -/
def ownValue? {place : ExpectPlace} : ExpectChain place → Option Value
  | .expectValue value => some value
  | .bodyValue _ value => some value
  | .statusValue _ code => some code
  | .jsonValue _ value => some value
  | _ => none

def callName : ExpectPlace → String
  | .body => "expect().body"
  | .json => "expect().body().json"
  | .status => "expect().status"
  | _ => "expect"

/-- The misuse of continuing a chain, which it is after a call that took a value. -/
def closed? {place : ExpectPlace} (chain : ExpectChain place) : Option Misuse :=
  chain.ownValue?.map fun _ => .afterValue (callName place)

/-- The header that a chain is bound to: the first one that was named. -/
def boundHeader? {place : ExpectPlace} : ExpectChain place → Option String
  | .header _ name => some name
  | .get chain name => chain.boundHeader? <|> some name
  | _ => none

/-- The misuse of an assertion that needs a header where none is named. -/
def unbound? (bound : Option String) : Assertion → Option Misuse
  | .oneOf _ => if bound.isNone then some (.unboundHeader Operator.oneOf.name) else none
  | .notOneOf _ => if bound.isNone then some (.unboundHeader Operator.notOneOf.name) else none
  | _ => none

def stage {place : ExpectPlace} : ExpectChain place → Stage
  | .expect => .first "expect" []
  | .expectValue value => .first "expect" [value]
  | .body chain => (chain.stage.note chain.closed?).push "body" []
  | .bodyValue chain value => (chain.stage.note chain.closed?).push "body" [value]
  | .interface chain value => (chain.stage.note chain.closed?).push "interface" [value]
  | .header chain name => (chain.stage.note chain.closed?).push "header" [.string name]
  | .headers chain => (chain.stage.note chain.closed?).push "headers" []
  | .get chain name =>
      (chain.stage.push "get" [.string name]).note (chain.boundHeader?.map fun _ => .getAfterGet)
  | .status chain => (chain.stage.note chain.closed?).push "status" []
  | .statusValue chain code => (chain.stage.note chain.closed?).push "status" [code]
  | .custom chain _ => (chain.stage.note chain.closed?).push "custom" []
  | .json chain => (chain.stage.note chain.closed?).push "json" []
  | .jsonValue chain value => (chain.stage.note chain.closed?).push "json" [value]
  | .bodyIs chain assertion _ =>
      (chain.stage.note chain.closed?).push assertion.operator.name assertion.arguments
  | .jsonIs chain expression assertion _ =>
      (chain.stage.note chain.closed?).push assertion.operator.name
        (.string expression :: assertion.arguments)
  | .headerIs chain assertion => chain.stage.push assertion.operator.name assertion.arguments
  | .headersAre chain assertion =>
      (chain.stage.push assertion.operator.name assertion.arguments).note
        (unbound? chain.boundHeader? assertion)
  | .statusIs chain assertion _ =>
      (chain.stage.note chain.closed?).push assertion.operator.name assertion.arguments

def step {place : ExpectPlace} (chain : ExpectChain place) : Step :=
  let stage := chain.stage
  let check (test : Response → Except Fault Unit) : Step := stage.step .expect (.check test)
  match chain with
  | .expect => stage.fail .expect (.withoutArgument (callName .root))
  | .body _ => stage.fail .expect (.withoutArgument (callName .body))
  | .json _ => stage.fail .expect (.withoutArgument (callName .json))
  | .status _ => stage.fail .expect (.withoutArgument (callName .status))
  | .header _ _ => stage.fail .expect (.withoutChain "expect().header(name)")
  | .headers _ | .get _ _ => stage.fail .expect (.withoutChain "expect().headers()")
  | .expectValue value | .bodyValue _ value | .interface _ value =>
      check (Assertion.equal value).checkBody
  | .statusValue _ code => check (Assertion.equal code).checkStatus
  | .jsonValue _ value => check ((Assertion.equal value).checkDocument "")
  | .bodyIs _ assertion _ => check assertion.checkBody
  | .jsonIs _ expression assertion _ => check (assertion.checkDocument expression)
  | .headerIs chain assertion => check (assertion.checkHeaders chain.boundHeader?)
  | .headersAre chain assertion => check (assertion.checkHeaders chain.boundHeader?)
  | .statusIs _ assertion _ => check assertion.checkStatus
  | .custom _ callback => stage.step .expect (.custom callback)

end ExpectChain

end HttpTest
