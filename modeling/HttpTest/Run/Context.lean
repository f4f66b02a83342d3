import HttpTest.Run.Transport

/-!
# The context of a run

All steps of a run share one context: the request under construction, the response once there is
one, and what a failure report needs to know. Callbacks read and change it; they may fail, and they
may panic, which ends everything that is under way.
-/

namespace HttpTest

inductive Event where
  /-- A request that was handed to an installed transport. -/
  | request (request : Request)
  | note (text : String)

structure Context where
  config : Config
  request : Request
  response : Option Response
  /-- The installed transport; without one requests go to the network. -/
  connection : Option Connection
  baseUrl : Option String
  description : Option String
  /-- The calls of the steps that are open, outermost first. -/
  frames : List String
  journal : List Event

namespace Context

/-- The context before the first step. The default headers are on the request already. -/
def new (config : Config) : Context where
  config
  request := config.http.defaultHeaders.foldl
    (fun request (name, value) => request.setHeader name value) .blank
  response := none
  connection := none
  baseUrl := config.baseUrl
  description := none
  frames := []
  journal := []

instance : Inhabited Context := ⟨new .standard⟩

def response? (context : Context) : Except Fault Response :=
  match context.response with
  | some response => .ok response
  | none => .error (.usage "no response available: the request was not exchanged yet")

/-- The report of a step that failed, once it is closed. -/
def failure (context : Context) (call : String) (cause : Fault) : Failure :=
  ⟨context.description, context.frames, call, cause⟩

def enter (context : Context) (call : String) : Context :=
  { context with frames := context.frames ++ [call] }

def leave (context : Context) : Context := { context with frames := context.frames.dropLast }

@[simp] theorem leave_enter (context : Context) (call : String) :
    (context.enter call).leave = context := by
  simp [enter, leave]

/-- The request with the base address in front, unless its address has a scheme. -/
def resolvedRequest (context : Context) : Request :=
  match context.baseUrl with
  | some baseUrl =>
    if Url.hasScheme context.request.url then context.request
    else context.request.setUrl (baseUrl ++ context.request.url)
  | none => context.request

end Context

structure Panic where
  text : String

/-- A computation on the context that may panic. -/
abbrev Run := EStateM Panic Context

/-- A computation on the context that may fail with a fault, or panic. -/
abbrev Attempt := ExceptT Fault Run

abbrev Callback := Attempt Unit

namespace Attempt

def context : Attempt Context := get

def modifyRequest (f : Request → Request) : Callback :=
  modify fun context => { context with request := f context.request }

def setBaseUrl (url : String) : Callback :=
  modify fun context => { context with baseUrl := some url }

def setDescription (text : String) : Callback :=
  modify fun context => { context with description := some text }

def setTransport (transport : Transport) : Callback :=
  modify fun context => { context with connection := some (.fresh transport) }

def note (text : String) : Callback :=
  modify fun context => { context with journal := context.journal ++ [.note text] }

def fail {α : Type} (fault : Fault) : Attempt α := throw fault

def ofExcept {α : Type} (result : Except Fault α) : Attempt α :=
  match result with
  | .ok value => pure value
  | .error fault => throw fault

def response : Attempt Response := do ofExcept (← context).response?

def noMethod : Fault :=
  .usage ("unable to create a request: did you call get(), post(), put(), patch(), delete(), "
    ++ "head(), options() or method()?")

/-- Hands the request over and keeps the response. The base address is put in front of the address
of the request first, and stays there. -/
def exchange : Callback := do
  if (← context).request.method.isNone then fail noMethod
  modify fun context => { context with request := context.resolvedRequest }
  let context ← context
  let request := context.request
  let reply ← match context.connection with
    | some connection => do
        set { context with
          connection := some (connection.after request)
          journal := context.journal ++ [Event.request request] }
        pure (connection.reply request)
    | none => pure (Network.reply context.config.http request)
  match reply with
  | .ok response => modify fun context => { context with response := some response }
  | .error error => fail (.transport error)

end Attempt

end HttpTest
