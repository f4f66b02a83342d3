import HttpTest.CommandLine.Arguments
import HttpTest.Config.File
import HttpTest.Scenario.Document
import HttpTest.Scenario.Execution

/-!
# The program

What the program prints and the code it ends with, given its arguments and the files it can see.
Scenarios are run over the network.
-/

namespace HttpTest.CommandLine

structure Output where
  code : Nat
  stdout : String
  stderr : String
  deriving DecidableEq

/-! ### Reports of errors -/

/-- A text with every line after the first indented. -/
def indented (margin : String) (text : String) : String :=
  let pieces := Text.splitAtChar '\n' text.toList
  String.ofList (Text.joinWith ('\n' :: margin.toList) pieces)

/-- A cause with its number, which leaves room for five places. -/
def numbered (n : Nat) (cause : String) : String :=
  let number := toString n
  String.ofList (List.replicate (5 - number.length) ' ') ++ number ++ ": "
    ++ indented "       " cause

def errorReport : (causes : List String) → String
  | [] => ""
  | [error] => "Error: " ++ error ++ "\n"
  | [error, cause] =>
      "Error: " ++ error ++ "\n\nCaused by:\n    " ++ indented "    " cause ++ "\n"
  | error :: causes =>
      "Error: " ++ error ++ "\n\nCaused by:\n"
        ++ String.intercalate "\n" (causes.zipIdx.map fun (cause, n) => numbered n cause) ++ "\n"

def configCauses (error : ConfigError) : List String :=
  error.message :: match error with
    | .read _ cause | .write _ cause => [cause.message]
    | .invalid text cause => [cause.report text]
    | .unwritable => []

/-! ### Suites in files -/

def loadSuite (tree : FileTree) (path : String) : Except (List String) Suite :=
  match tree.readText path with
  | .error e => .error ["failed to read " ++ path, e.message]
  | .ok text =>
    (Suite.ofText text).mapError fun e => ["invalid scenario file " ++ path, e.report text]

def oneLine (causes : List String) : String := String.intercalate ": " causes

/-! ### Checking -/

def phaseColumn (phase : Phase) : String :=
  phase.name ++ String.ofList (List.replicate (8 - phase.name.length) ' ')

/-- The lines on a scenario, and whether it is valid. -/
def checkScenario (suite : Suite) (scenario : Scenario) : String × Bool :=
  match suite.calls scenario with
  | .ok calls =>
    ("  ✓ " ++ scenario.description ++ "\n" ++
      String.join (calls.map fun (phase, call) =>
        "      " ++ phaseColumn phase ++ " " ++ call ++ "\n"),
     true)
  | .error fault => ("  × " ++ scenario.description ++ ": " ++ fault.message ++ "\n", false)

/-- The lines on a file, and how many parts of it are invalid. -/
def checkFile (tree : FileTree) (path : String) : String × Nat :=
  match loadSuite tree path with
  | .error causes => (path ++ "\n  × " ++ oneLine causes ++ "\n", 1)
  | .ok suite =>
    let results := suite.scenarios.map (checkScenario suite)
    (path ++ "\n" ++ String.join (results.map Prod.fst),
     (results.filter fun result => !result.2).length)

def check (tree : FileTree) (files : List String) : Output :=
  let results := files.map (checkFile tree)
  let invalid := results.foldl (fun (count : Nat) result => count + result.2) 0
  let stdout := String.join (results.map Prod.fst)
  if invalid = 0 then ⟨0, stdout, ""⟩
  else ⟨1, stdout, errorReport [toString invalid ++ " invalid scenario(s)"]⟩

/-! ### Running -/

def loadConfig (tree : FileTree) : (path : Option String) → Except (List String) Config
  | some path =>
    (Config.load tree path).mapError fun e => ("failed to load config " ++ path) :: configCauses e
  | none => (Config.loadOrStandard tree ".").mapError configCauses

structure FileOutcome extends Outcome where
  file : String

/-- The outcomes of the scenarios in some files. With `failFast` no file is begun after a failure. -/
def runFiles (tree : FileTree) (config : Config) (failFast : Bool) :
    (files : List String) → Except (List String) (List FileOutcome)
  | [] => .ok []
  | path :: files =>
    match loadSuite tree path with
    | .error causes => .error causes
    | .ok suite =>
      match (suite.execute config failFast).outcomes with
      | .error fault => .error fault.causes
      | .ok outcomes =>
        let here := outcomes.map fun outcome => FileOutcome.mk outcome path
        if failFast && here.any (!·.passed) then .ok here
        else (runFiles tree config failFast files).map (here ++ ·)

/-- The steps of a path that tell it from another: separators in a row and steps that lead nowhere
do not count, but for a first one. -/
def significantSteps (path : String) : List String :=
  match (Text.splitAtChar '/' path.toList).map String.ofList with
  | [] => []
  | first :: rest => first :: rest.filter fun step => step ≠ "" ∧ step ≠ "."

def outcomeLines (outcome : Outcome) : String :=
  match outcome.failure with
  | none => "  ✓ " ++ outcome.description ++ "\n"
  | some failure =>
    "  × " ++ outcome.description ++ "\n" ++
      String.join ((Text.lines failure.message.toList).map fun line =>
        "      " ++ String.ofList line ++ "\n")

/-- The lines on outcomes; where the file changes its path stands before them. -/
def outcomesText (current : Option String) : List FileOutcome → String
  | [] => ""
  | outcome :: rest =>
    (if current.map significantSteps = some (significantSteps outcome.file) then ""
      else outcome.file ++ "\n")
      ++ outcomeLines outcome.toOutcome ++ outcomesText (some outcome.file) rest

def runAll (tree : FileTree) (files : List String) (config : Option String) (failFast : Bool) :
    Output :=
  match loadConfig tree config with
  | .error causes => ⟨1, "", errorReport causes⟩
  | .ok config =>
    match runFiles tree config failFast files with
    | .error causes => ⟨1, "", errorReport causes⟩
    | .ok outcomes =>
      let failed := (outcomes.filter (!·.passed)).length
      let stdout := outcomesText none outcomes ++ "\n"
      if failed = 0 then
        ⟨0, stdout ++ "✓ " ++ toString outcomes.length ++ " scenarios passed\n", ""⟩
      else
        ⟨1, stdout, errorReport
          [toString failed ++ " of " ++ toString outcomes.length ++ " scenarios failed"]⟩

/-! ### The program -/

def perform (tree : FileTree) : Reading → Output
  | .command (.run files config failFast) => runAll tree files config failFast
  | .command (.check files) => check tree files
  | .page topic => ⟨0, page topic, ""⟩
  | .version => ⟨0, versionPage, ""⟩
  | .nothing => ⟨2, "", page .program⟩
  | .mistake mistake => ⟨2, "", mistake.report⟩

def program (tree : FileTree) (arguments : List String) : Output := perform tree (read arguments)

/-- The paths of the files that the program reads. -/
def paths (arguments : List String) : List String :=
  match read arguments with
  | .command (.run files config _) => config.getD (pathIn "." Config.fileName) :: files
  | .command (.check files) => files
  | _ => []

end HttpTest.CommandLine
