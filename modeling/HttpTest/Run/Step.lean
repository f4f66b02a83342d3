import HttpTest.Run.Context
import HttpTest.Path

/-!
# Steps

A step belongs to a phase and either does something, or clears steps declared before it, or stands
for a misuse of the calls that declared it and makes the run fail.
-/

namespace HttpTest

inductive Phase where
  /-- Clear steps, which take effect before anything runs. -/
  | clean
  /-- Method, address and settings of the run. -/
  | setup
  /-- Construction of the request. -/
  | send
  | exchange
  /-- Assertions on the response. -/
  | expect
  /-- What is done when all assertions hold. -/
  | cleanup
  deriving DecidableEq

namespace Phase

/-- The phases in the order in which they run. -/
def all : List Phase := [.clean, .setup, .send, .exchange, .expect, .cleanup]

@[simp] theorem mem_all (phase : Phase) : phase ∈ all := by
  cases phase <;> decide

def name : Phase → String
  | .clean => "clean"
  | .setup => "setup"
  | .send => "send"
  | .exchange => "exchange"
  | .expect => "expect"
  | .cleanup => "cleanup"

def ofName? (name : String) : Option Phase := all.find? (·.name = name)

end Phase

inductive Effect where
  | target (method : Method) (url : String)
  | baseUrl (url : String)
  | transport (transport : Transport)
  | description (text : String)
  | body (value : Value)
  | json (value : Value)
  | header (name value : String)
  | exchange
  /-- Checks the response and changes nothing. -/
  | check (test : Response → Except Fault Unit)
  | custom (callback : Callback)

def Effect.perform : Effect → Callback
  | .target method url => Attempt.modifyRequest fun request => (request.setMethod method).setUrl url
  | .baseUrl url => Attempt.setBaseUrl url
  | .transport installed => Attempt.setTransport installed
  | .description text => Attempt.setDescription text
  | .body value => Attempt.modifyRequest (·.setBodyValue value)
  | .json value => Attempt.modifyRequest (·.setBodyJson value)
  | .header name value => Attempt.modifyRequest (·.setHeader name value)
  | .exchange => Attempt.exchange
  | .check test => do Attempt.ofExcept (test (← Attempt.response))
  | .custom callback => callback

inductive Action where
  | run (effect : Effect)
  /-- Removes the steps declared before whose path the pattern addresses. -/
  | clear (pattern : Path)
  | fail (message : String)

def Action.kindName : Action → String
  | .run _ => "run"
  | .clear _ => "clear"
  | .fail _ => "fail"

structure Step where
  phase : Phase
  /-- The calls that declared the step. A step without a path cannot be cleared. -/
  path : Option Path
  action : Action

namespace Step

/-- The step as it is named in reports: its path, or its phase if it has none. -/
def call (step : Step) : String :=
  match step.path with
  | some path => path.text
  | none => step.phase.name ++ "()"

def custom (phase : Phase) (path : Option Path) (callback : Callback) : Step :=
  ⟨phase, path, .run (.custom callback)⟩

/-- The exchange of the request, a step that nothing clears. -/
def exchange : Step := ⟨.exchange, none, .run .exchange⟩

/-- The clear step for the path of a clear chain; its first call is not part of the pattern. -/
def clear (path : Path) : Step := ⟨.clean, some path, .clear (path.skip 1)⟩

def isClear (step : Step) : Bool :=
  match step.action with
  | .clear _ => true
  | _ => false

def clearPattern? (step : Step) : Option Path :=
  match step.action with
  | .clear pattern => some pattern
  | _ => none

def usageMessage? (step : Step) : Option String :=
  match step.action with
  | .fail message => some message
  | _ => none

def isClearedBy (step : Step) (pattern : Path) : Bool := step.path.any pattern.clears

def perform (step : Step) : Callback :=
  match step.action with
  | .run effect => effect.perform
  | .fail message => Attempt.fail (.usage message)
  | .clear _ => pure ()

def summary (step : Step) : String :=
  "Step \x7b phase: " ++ step.phase.name.capitalize ++
    ", call: " ++ String.ofList (Text.quoted step.call) ++
    ", action: " ++ String.ofList (Text.quoted step.action.kindName) ++ " \x7d"

end Step

end HttpTest
