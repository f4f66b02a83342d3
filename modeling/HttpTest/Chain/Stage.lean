import HttpTest.Run.Step

/-!
# Stages of a chain

Steps are declared by chains of calls such as `expect().body().json()`. Behind each call stands a
stage: the path so far, and the first misuse if there was one. Every step that is reached from a
misused stage fails with that misuse, however the chain goes on.
-/

namespace HttpTest

/-- A way of calling that declares no step. -/
inductive Misuse where
  | afterValue (call : String)
  /-- A chain ends where a value or another call is due. -/
  | withoutArgument (call : String)
  /-- A chain ends where another call is due. -/
  | withoutChain (call : String)
  | getAfterGet
  /-- Candidates are given where no header is named. -/
  | unboundHeader (call : String)
  deriving DecidableEq

def Misuse.message : Misuse → String
  | .afterValue call =>
      "only usable with " ++ call ++ "() not with " ++ call ++ "_value(value)"
  | .withoutArgument call =>
      "unable to run " ++ call ++ "() without an argument or without a chain. Please use " ++ call
        ++ "_value(something) or " ++ call ++ "().something"
  | .withoutChain call =>
      "unable to run " ++ call ++ " without a chain. Please use " ++ call ++ ".something"
  | .getAfterGet => "get() can only be used if no header was already specified"
  | .unboundHeader call => call ++ "() can only be used if a header was already specified"

/-- How far a chain has come. -/
structure Stage where
  path : Path
  misuse : Option Misuse

namespace Stage

def first (name : String) (arguments : List Value) : Stage :=
  ⟨Path.root.push name arguments, none⟩

def push (stage : Stage) (name : String) (arguments : List Value) : Stage :=
  { stage with path := stage.path.push name arguments }

/-- Notes a misuse, if there is one and there was none before. -/
def note (stage : Stage) (misuse : Option Misuse) : Stage :=
  { stage with misuse := stage.misuse <|> misuse }

/-- The step that fails with the misuse of the stage, or else has the given action. -/
def stepWith (stage : Stage) (phase : Phase) (action : Action) : Step :=
  match stage.misuse with
  | some misuse => ⟨phase, some stage.path, .fail misuse.message⟩
  | none => ⟨phase, some stage.path, action⟩

def step (stage : Stage) (phase : Phase) (effect : Effect) : Step :=
  stage.stepWith phase (.run effect)

def fail (stage : Stage) (phase : Phase) (misuse : Misuse) : Step :=
  stage.stepWith phase (.fail misuse.message)

/-- The step that clears what the path of the stage addresses, its first call left out. -/
def clearStep (stage : Stage) : Step :=
  stage.stepWith .clean (.clear (stage.path.skip 1))

end Stage

end HttpTest
