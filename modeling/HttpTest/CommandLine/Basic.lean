import HttpTest.Config.Basic

/-!
# The command line

The commands of the program with their flags, how they are used, and the pages that explain them.
-/

namespace HttpTest.CommandLine

def programName : String := "hit"

/-- What is explained, and what words are read for: the program or one of its commands. -/
inductive Topic where
  | program
  | run
  | check
  | help
  deriving DecidableEq

inductive Flag where
  | help
  | version
  | config
  | failFast
  deriving DecidableEq

namespace Flag

def long : Flag → String
  | .help => "help"
  | .version => "version"
  | .config => "config"
  | .failFast => "fail-fast"

def short? : Flag → Option Char
  | .help => some 'h'
  | .version => some 'V'
  | .config => some 'c'
  | .failFast => none

def value? : Flag → Option String
  | .config => some "<CONFIG>"
  | _ => none

def text (flag : Flag) : String :=
  "--" ++ flag.long ++ match flag.value? with
    | some value => " " ++ value
    | none => ""

def description : Flag → String
  | .help => "Print help"
  | .version => "Print version"
  | .config => "Configuration file (defaults to ./hit.toml if present)"
  | .failFast => "Stop at the first failing scenario"

end Flag

def filesText : String := "<FILES>..."

namespace Topic

def commands : List Topic := [.run, .check, .help]

def word : Topic → String
  | .program => programName
  | .run => "run"
  | .check => "check"
  | .help => "help"

def ofWord? (word : String) : Option Topic := commands.find? (·.word = word)

def path : Topic → String
  | .program => programName
  | topic => programName ++ " " ++ topic.word

def description : Topic → String
  | .program => "Declarative HTTP tests"
  | .run => "Run scenario files against a live service"
  | .check => "Parse scenario files and print the steps each scenario runs"
  | .help => "Print this message or the help of the given subcommand(s)"

def flags : Topic → List Flag
  | .program => [.help, .version]
  | .run => [.config, .failFast, .help]
  | .check => [.help]
  | .help => []

/-- The flags that say what a command does. -/
def ownFlags (topic : Topic) : List Flag :=
  topic.flags.filter fun flag => flag ≠ .help ∧ flag ≠ .version

/-- What has to follow the flags. -/
def operand : Topic → String
  | .program => "<COMMAND>"
  | .run | .check => filesText
  | .help => "[COMMAND]..."

def usage (topic : Topic) : String :=
  topic.path ++ (if topic.ownFlags.isEmpty then "" else " [OPTIONS]") ++ " " ++ topic.operand

/-- How a topic is used with some flags. Each is named once, where it was used first. -/
def usageWith (topic : Topic) (flags : List Flag) : String :=
  String.intercalate " " (topic.path :: flags.eraseDups.map Flag.text ++ [topic.operand])

end Topic

/-! ### Pages -/

def table (rows : List (String × String)) : String :=
  let width := rows.foldl (fun width row => max width row.1.length) 0
  String.join <| rows.map fun (term, explanation) =>
    "  " ++ term ++ String.ofList (List.replicate (width - term.length + 2) ' ') ++ explanation
      ++ "\n"

/-- The term of a flag in a table. Flags with a short name leave room for it in the others. -/
def flagTerm (flag : Flag) : String :=
  (match flag.short? with
    | some c => "-" ++ String.singleton c ++ ", "
    | none => "    ") ++ flag.text

def page (topic : Topic) : String :=
  let arguments := match topic with
    | .program =>
      "\nCommands:\n"
        ++ table (Topic.commands.map fun command => (command.word, command.description))
    | .run | .check => "\nArguments:\n" ++ table [(filesText, "Scenario files (TOML)")]
    | .help => "\nArguments:\n" ++ table [(topic.operand, "Print help for the subcommand(s)")]
  let options :=
    if topic.flags.isEmpty then ""
    else "\nOptions:\n" ++ table (topic.flags.map fun flag => (flagTerm flag, flag.description))
  topic.description ++ "\n\nUsage: " ++ topic.usage ++ "\n" ++ arguments ++ options

def versionPage : String := programName ++ " " ++ version ++ "\n"

end HttpTest.CommandLine
