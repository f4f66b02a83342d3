import HttpTest.Comparison
import HttpTest.Json.Reader

/-!
# Failures

A step fails with a `Fault`. A run that is aborted by one reports a `Failure`: where it happened and
what the cause was. A step that runs other steps may fail with their failure.
-/

namespace HttpTest

inductive TransportError where
  | invalidUrl (url reason : String)
  | invalidHeader (name reason : String)
  | client (reason : String)
  | request (reason : String)
  | body (reason : String)
  deriving DecidableEq

def TransportError.message : TransportError → String
  | .invalidUrl url reason => "invalid url " ++ url ++ ": " ++ reason
  | .invalidHeader name reason => "invalid header " ++ name ++ ": " ++ reason
  | .client reason => "failed to build http client: " ++ reason
  | .request reason => "request failed: " ++ reason
  | .body reason => "failed to read response: " ++ reason

/-- What aborts a run: the description of the run, the calls of the steps that were open, outermost
first, the call of the step that failed, and the cause. -/
structure Report (ε : Type) where
  description : Option String
  frames : List String
  call : String
  cause : ε

inductive Fault where
  /-- The steps were declared in a way that is not supported. -/
  | usage (message : String)
  | assertion (mismatch : Mismatch)
  | conversion (error : CoercionError)
  | transport (error : TransportError)
  | json (error : Json.ReadError)
  | custom (message : String)
  /-- A run inside the step was aborted. -/
  | nested (failure : Report Fault)

abbrev Failure := Report Fault

inductive FaultKind where
  | usage
  | assertion
  | conversion
  | transport
  | custom
  deriving DecidableEq

def Report.messageWith {ε : Type} (report : Report ε) (cause : String) : String :=
  (match report.description with
    | some description => description ++ "\n"
    | none => "") ++
  String.join (report.frames.map fun frame => "in " ++ frame ++ "\n") ++
  report.call ++ "\n" ++ cause

namespace Fault

def message : Fault → String
  | .usage message => message
  | .assertion mismatch => mismatch.message
  | .conversion error => error.message
  | .transport error => error.message
  | .json error => "invalid json: " ++ error.message
  | .custom message => message
  | .nested ⟨description, frames, call, cause⟩ =>
      Report.messageWith ⟨description, frames, call, cause⟩ cause.message

/-- The class of a fault; that of an aborted run is the class of its cause. -/
def kind : Fault → FaultKind
  | .usage _ => .usage
  | .assertion _ => .assertion
  | .conversion _ => .conversion
  | .transport _ => .transport
  | .json _ => .conversion
  | .custom _ => .custom
  | .nested ⟨_, _, _, cause⟩ => cause.kind

def ofMismatch : Mismatch → Fault
  | .coercion error => .conversion error
  | mismatch => .assertion mismatch

end Fault

namespace Report

def message (failure : Failure) : String := failure.messageWith failure.cause.message

def kind (failure : Failure) : FaultKind := failure.cause.kind

end Report

end HttpTest
