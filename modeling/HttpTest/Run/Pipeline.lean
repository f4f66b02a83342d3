import HttpTest.Run.Step

/-!
# Pipelines

A list of steps is resolved before anything runs: the first usage error fails it, then each clear
step removes what it addresses among the steps before it, and what is left is ordered by phase. The
steps then run in that order until one fails.
-/

namespace HttpTest.Pipeline

/-- The first step that can only fail, with its fault. -/
def usageError? (steps : List Step) : Option (Step × Fault) :=
  steps.findSome? fun step => step.usageMessage?.map fun message => (step, .usage message)

/-- The steps before, and one more: a clear step removes from them what it addresses, any other step
follows them. -/
def declare (before : List Step) (step : Step) : List Step :=
  match step.action with
  | .clear pattern => before.filter (!·.isClearedBy pattern)
  | _ => before ++ [step]

/-- The steps that no later clear step removes, in the order of their declaration. -/
def survivors (steps : List Step) : List Step := steps.foldl declare []

/-- The steps by phase; steps of one phase keep their order. -/
def inPhaseOrder (steps : List Step) : List Step :=
  Phase.all.flatMap fun phase => steps.filter (·.phase = phase)

@[simp] theorem mem_inPhaseOrder {step : Step} {steps : List Step} :
    step ∈ inPhaseOrder steps ↔ step ∈ steps := by
  simp [inPhaseOrder]

/-- The steps to run, in order, or the first usage error. -/
def resolve (steps : List Step) : Except (Step × Fault) (List Step) :=
  match usageError? steps with
  | some error => .error error
  | none => .ok (inPhaseOrder (survivors steps))

/-- The steps of a top-level run: at its end the request is exchanged once. -/
def withExchange (steps : List Step) : List Step := steps ++ [.exchange]

/-- Runs steps in the given order until one fails. A failure of a run inside a step is passed on as
it is. -/
def execute : List Step → Run (Except Failure Unit)
  | [] => pure (.ok ())
  | step :: steps => do
    modify (·.enter step.call)
    let outcome ← step.perform.run
    modify (·.leave)
    match outcome with
    | .ok () => execute steps
    | .error (.nested failure) => pure (.error failure)
    | .error cause => do pure (.error ((← get).failure step.call cause))

def run (steps : List Step) : Run (Except Failure Unit) := do
  match resolve steps with
  | .error (step, cause) => pure (.error ((← get).failure step.call cause))
  | .ok steps => execute steps

end HttpTest.Pipeline

namespace HttpTest

namespace Run

/-- Runs steps inside a run, without an exchange. -/
def doSteps (steps : List Step) : Run (Except Failure Unit) := Pipeline.run steps

/-- Runs steps as a top-level run, with the exchange after the send phase. -/
def topLevel (steps : List Step) : Run (Except Failure Unit) :=
  Pipeline.run (Pipeline.withExchange steps)

def mustDo (steps : List Step) : Run Unit := do
  match ← doSteps steps with
  | .ok () => pure ()
  | .error failure => throw ⟨failure.message⟩

end Run

namespace Attempt

/-- The outcome of a run, its failure as a fault of the step around it. -/
def ofRun (run : Run (Except Failure Unit)) : Callback := do
  match ← ExceptT.lift run with
  | .ok () => pure ()
  | .error failure => throw (.nested failure)

def doSteps (steps : List Step) : Callback := ofRun (Run.doSteps steps)

def topLevel (steps : List Step) : Callback := ofRun (Run.topLevel steps)

def mustDo (steps : List Step) : Callback := ExceptT.lift (Run.mustDo steps)

end Attempt

end HttpTest
