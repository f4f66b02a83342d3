import HttpTest.Chain.Stage

/-!
# Send chains

`send()` chains put the request together. A chain that was given its value, as in `send_value(v)`,
is complete and cannot be continued; one that ends where a value is due declares nothing.
-/

namespace HttpTest

/-- Where a send chain has come to. -/
inductive SendPlace where
  | root
  | body
  | done

inductive SendChain : SendPlace → Type where
  | send : SendChain .root
  | sendValue (value : Value) : SendChain .root
  | body (chain : SendChain .root) : SendChain .body
  | bodyValue (chain : SendChain .root) (value : Value) : SendChain .body
  | interface (chain : SendChain .root) (value : Value) : SendChain .done
  | json (chain : SendChain .root) (value : Value) : SendChain .done
  | header (chain : SendChain .root) (name value : String) : SendChain .done
  | custom (chain : SendChain .root) (callback : Callback) : SendChain .done
  | bodyInterface (chain : SendChain .body) (value : Value) : SendChain .done
  | bodyJson (chain : SendChain .body) (value : Value) : SendChain .done

namespace SendChain

/-- The value that the last call took in place of a continuation. -/
def ownValue? {place : SendPlace} : SendChain place → Option Value
  | .sendValue value => some value
  | .bodyValue _ value => some value
  | _ => none

def callName : SendPlace → String
  | .root => "send"
  | _ => "send().body"

/-- The misuse of continuing a chain, which it is after a call that took a value. -/
def closed? {place : SendPlace} (chain : SendChain place) : Option Misuse :=
  chain.ownValue?.map fun _ => .afterValue (callName place)

def stage {place : SendPlace} : SendChain place → Stage
  | .send => .first "send" []
  | .sendValue value => .first "send" [value]
  | .body chain => (chain.stage.note chain.closed?).push "body" []
  | .bodyValue chain value => (chain.stage.note chain.closed?).push "body" [value]
  | .interface chain value => (chain.stage.note chain.closed?).push "interface" [value]
  | .json chain value => (chain.stage.note chain.closed?).push "json" [value]
  | .header chain name value =>
      (chain.stage.note chain.closed?).push "header" [.string name, .string value]
  | .custom chain _ => (chain.stage.note chain.closed?).push "custom" []
  | .bodyInterface chain value => (chain.stage.note chain.closed?).push "interface" [value]
  | .bodyJson chain value => (chain.stage.note chain.closed?).push "json" [value]

def step {place : SendPlace} (chain : SendChain place) : Step :=
  let stage := chain.stage
  match chain with
  | .send => stage.fail .send (.withoutArgument (callName .root))
  | .body _ => stage.fail .send (.withoutArgument (callName .body))
  | .sendValue value | .bodyValue _ value | .interface _ value | .bodyInterface _ value =>
      stage.step .send (.body value)
  | .json _ value | .bodyJson _ value => stage.step .send (.json value)
  | .header _ name value => stage.step .send (.header name value)
  | .custom _ callback => stage.step .send (.custom callback)

end SendChain

end HttpTest
