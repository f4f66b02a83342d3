import HttpTest.Run.Pipeline
import HttpTest.Chain.Setup

/-!
# Standalone runs

A run that has a context of its own. Its outcome is given together with the context it leaves, in
which everything it did is recorded.
-/

namespace HttpTest

namespace Run

def mustSucceed (steps : List Step) : Run Unit := do
  match ← topLevel steps with
  | .ok () => pure ()
  | .error failure => throw ⟨failure.message⟩

/-- The steps of a test: the description comes first, so that it heads every report. -/
def testSteps (description : String) (steps : List Step) : List Step :=
  (SetupCall.description description).step :: steps

end Run

abbrev Ended (α : Type) := EStateM.Result Panic Context α

def runWith (config : Config) (steps : List Step) : Ended (Except Failure Unit) :=
  Run.topLevel steps (.new config)

/-- Runs steps with some settings, where requests go to a service, or to the network if there is
none. -/
def runOver (service : Option Connection) (config : Config) (steps : List Step) :
    Ended (Except Failure Unit) :=
  Run.topLevel steps { Context.new config with connection := service }

def run (steps : List Step) : Ended (Except Failure Unit) := runWith .standard steps

def mustRun (steps : List Step) : Ended Unit := Run.mustSucceed steps (.new .standard)

def test (description : String) (steps : List Step) : Ended Unit :=
  mustRun (Run.testSteps description steps)

end HttpTest
