import HttpTest.Chain.Stage
import HttpTest.Chain.Assertion

/-!
# Clear chains

`clear()` chains address steps by the calls that declared them. Arguments narrow down what is
addressed; a call without arguments stands for one with any. The calls that take a value in place of
a continuation address nothing, and using them is a misuse.
-/

namespace HttpTest

/-- Where a clear chain has come to. -/
inductive ClearPlace where
  | root
  | send
  | sendBody
  | expect
  | expectBody
  | json
  | header
  | headers
  | status
  | done

/-- The last calls of a send chain on its body. -/
inductive BodyCall where
  | interface
  | json
  deriving DecidableEq

def BodyCall.name : BodyCall → String
  | .interface => "interface"
  | .json => "json"

/-- An operator as it is cleared, with the first of its operands. -/
structure ClearedOperator where
  operator : Operator
  arguments : List Value
  /-- An operator without operands is cleared without arguments. -/
  admitted : operator.takesArguments || arguments.isEmpty := by decide

inductive ClearChain : ClearPlace → Type where
  | clear : ClearChain .root
  | send (chain : ClearChain .root) : ClearChain .send
  | sendValue (chain : ClearChain .root) (value : Value) : ClearChain .send
  | expect (chain : ClearChain .root) : ClearChain .expect
  | expectValue (chain : ClearChain .root) (value : Value) : ClearChain .expect
  | sendBody (chain : ClearChain .send) : ClearChain .sendBody
  | sendBodyValue (chain : ClearChain .send) (value : Value) : ClearChain .sendBody
  | sendWhole (chain : ClearChain .send) (call : BodyCall) (arguments : List Value) :
      ClearChain .done
  | sendHeader (chain : ClearChain .send) (arguments : List Value) : ClearChain .done
  | sendCustom (chain : ClearChain .send) : ClearChain .done
  | sendBodyCall (chain : ClearChain .sendBody) (call : BodyCall) (arguments : List Value) :
      ClearChain .done
  | body (chain : ClearChain .expect) : ClearChain .expectBody
  | bodyValue (chain : ClearChain .expect) (value : Value) : ClearChain .expectBody
  | interface (chain : ClearChain .expect) (arguments : List Value) : ClearChain .done
  | header (chain : ClearChain .expect) (arguments : List Value) : ClearChain .header
  | headers (chain : ClearChain .expect) : ClearChain .headers
  | get (chain : ClearChain .headers) (arguments : List Value) : ClearChain .headers
  | status (chain : ClearChain .expect) : ClearChain .status
  | statusValue (chain : ClearChain .expect) (code : Value) : ClearChain .status
  | custom (chain : ClearChain .expect) : ClearChain .done
  | json (chain : ClearChain .expectBody) : ClearChain .json
  | jsonValue (chain : ClearChain .expectBody) (value : Value) : ClearChain .json
  | bodyIs (chain : ClearChain .expectBody) (cleared : ClearedOperator)
      (supported : Target.body.supports cleared.operator) : ClearChain .done
  | jsonIs (chain : ClearChain .json) (cleared : ClearedOperator)
      (supported : Target.json.supports cleared.operator) : ClearChain .done
  | headerIs (chain : ClearChain .header) (cleared : ClearedOperator) : ClearChain .done
  | headersAre (chain : ClearChain .headers) (cleared : ClearedOperator) : ClearChain .done
  | statusIs (chain : ClearChain .status) (cleared : ClearedOperator)
      (supported : Target.status.supports cleared.operator) : ClearChain .done

namespace ClearChain

/-- Whether a header is named already. -/
def isBound {place : ClearPlace} : ClearChain place → Bool
  | .get _ _ => true
  | _ => false

/-- The stage of a call that takes a value in place of a continuation. -/
def taken (stage : Stage) (name : String) (value : Value) (call : String) : Stage :=
  (stage.push name [value]).note (some (.afterValue call))

def stage {place : ClearPlace} : ClearChain place → Stage
  | .clear => .first "clear" []
  | .send chain => chain.stage.push "send" []
  | .sendValue chain value => taken chain.stage "send" value "clear().send"
  | .expect chain => chain.stage.push "expect" []
  | .expectValue chain value => taken chain.stage "expect" value "clear().expect"
  | .sendBody chain => chain.stage.push "body" []
  | .sendBodyValue chain value => taken chain.stage "body" value "clear().send().body"
  | .sendWhole chain call arguments => chain.stage.push call.name arguments
  | .sendHeader chain arguments => chain.stage.push "header" arguments
  | .sendCustom chain => chain.stage.push "custom" []
  | .sendBodyCall chain call arguments => chain.stage.push call.name arguments
  | .body chain => chain.stage.push "body" []
  | .bodyValue chain value => taken chain.stage "body" value "clear().expect().body"
  | .interface chain arguments => chain.stage.push "interface" arguments
  | .header chain arguments => chain.stage.push "header" arguments
  | .headers chain => chain.stage.push "headers" []
  | .get chain arguments =>
      (chain.stage.push "get" arguments).note (if chain.isBound then some .getAfterGet else none)
  | .status chain => chain.stage.push "status" []
  | .statusValue chain code => taken chain.stage "status" code "clear().expect().status"
  | .custom chain => chain.stage.push "custom" []
  | .json chain => chain.stage.push "json" []
  | .jsonValue chain value => taken chain.stage "json" value "clear().expect().body().json"
  | .bodyIs chain cleared _ => chain.stage.push cleared.operator.name cleared.arguments
  | .jsonIs chain cleared _ => chain.stage.push cleared.operator.name cleared.arguments
  | .headerIs chain cleared => chain.stage.push cleared.operator.name cleared.arguments
  | .headersAre chain cleared => chain.stage.push cleared.operator.name cleared.arguments
  | .statusIs chain cleared _ => chain.stage.push cleared.operator.name cleared.arguments

def step {place : ClearPlace} (chain : ClearChain place) : Step :=
  match chain with
  | .clear => chain.stage.fail .clean (.withoutChain "clear()")
  | chain => chain.stage.clearStep

end ClearChain

end HttpTest
