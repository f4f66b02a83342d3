import HttpTest.CommandLine.Basic
import HttpTest.Text.Basic
import HttpTest.Text.Similarity

/-!
# Arguments

The words after the name of the program are read one by one. They ask for a command, or for a page,
or there is a mistake in them. A flag that takes a value is complete only when the next word has
been seen, and so are files, which is when what is wrong with them is noticed.
-/

namespace HttpTest.CommandLine

inductive Command where
  | run (files : List String) (config : Option String) (failFast : Bool)
  | check (files : List String)

inductive Tip where
  | flag (name : String)
  | commands (names : List String)
  /-- The word is a value. -/
  | value (word : String)
  | flagOf (command name : String)
  /-- The word is a command. -/
  | noDashes (word : String)

def Tip.text : Tip → String
  | .flag name => "a similar argument exists: '--" ++ name ++ "'"
  | .commands [name] => "a similar subcommand exists: '" ++ name ++ "'"
  | .commands names =>
      "some similar subcommands exist: "
        ++ String.intercalate ", " (names.map fun name => "'" ++ name ++ "'")
  | .value word => "to pass '" ++ word ++ "' as a value, use '-- " ++ word ++ "'"
  | .flagOf command name => "'" ++ command ++ " --" ++ name ++ "' exists"
  | .noDashes word =>
      "subcommand '" ++ word ++ "' exists; to use it, remove the '--' before it"

inductive Mistake where
  | unknownArgument (word : String) (tips : List Tip) (usage : String)
  /-- A word is no command of what it is read for. -/
  | unknownCommand (word : String) (tips : List Tip) (topic : Topic)
  | missingValue (argument : String)
  | repeated (argument usage : String)
  | extraValue (argument value usage : String)
  | missingFiles (usage : String)

namespace Mistake

def headline : Mistake → String
  | .unknownArgument word _ _ => "unexpected argument '" ++ word ++ "' found"
  | .unknownCommand word _ _ => "unrecognized subcommand '" ++ word ++ "'"
  | .missingValue argument =>
      "a value is required for '" ++ argument ++ "' but none was supplied"
  | .repeated argument _ => "the argument '" ++ argument ++ "' cannot be used multiple times"
  | .extraValue argument value _ =>
      "unexpected value '" ++ value ++ "' for '" ++ argument ++ "' found; no more were expected"
  | .missingFiles _ =>
      "the following required arguments were not provided:\n  " ++ filesText

def tips : Mistake → List Tip
  | .unknownArgument _ tips _ | .unknownCommand _ tips _ => tips
  | _ => []

def usage? : Mistake → Option String
  | .unknownArgument _ _ usage | .repeated _ usage | .extraValue _ _ usage | .missingFiles usage =>
    some usage
  | .unknownCommand _ _ topic => some topic.usage
  | .missingValue _ => none

/-- Whether a flag explains more. The command that explains the others has none. -/
def hasHelp : Mistake → Bool
  | .unknownCommand _ _ topic => topic ≠ .help
  | _ => true

def report (mistake : Mistake) : String :=
  let tips := mistake.tips.map fun tip => "\n  tip: " ++ tip.text
  "error: " ++ mistake.headline
    ++ (if tips.isEmpty then "" else "\n" ++ String.join tips)
    ++ (match mistake.usage? with
      | some usage => "\n\nUsage: " ++ usage
      | none => "")
    ++ (if mistake.hasHelp then "\n\nFor more information, try '--help'.\n" else "\n")

end Mistake

inductive Reading where
  | command (command : Command)
  | page (topic : Topic)
  | version
  | nothing
  | mistake (mistake : Mistake)

inductive Word where
  /-- Two dashes, after which all words are plain. -/
  | dashes
  /-- Two dashes, a name, and the value after an equals sign. -/
  | long (name : String) (value : Option String)
  /-- One dash and what follows. -/
  | short (letters : List Char)
  | plain (word : String)

def Word.of (word : String) : Word :=
  match word.toList with
  | ['-', '-'] => .dashes
  | '-' :: '-' :: rest =>
    match Text.splitOnce? ['='] rest with
    | some (name, value) => .long (String.ofList name) (some (String.ofList value))
    | none => .long (String.ofList rest) none
  | '-' :: c :: rest => .short (c :: rest)
  | _ => .plain word

/-! ### The words of a command -/

/-- What was read last and is not complete. -/
inductive Pending where
  | none
  /-- A configuration file, which may still be missing. -/
  | config (value : Option String)
  | files (given : List String)

structure Draft where
  topic : Topic
  files : List String
  config : Option String
  failFast : Bool
  pending : Pending
  used : List Flag

namespace Draft

def empty (topic : Topic) : Draft := ⟨topic, [], none, false, .none, []⟩

def settle (draft : Draft) : Except Mistake Draft :=
  match draft.pending with
  | .none => .ok draft
  | .config none => .error (.missingValue Flag.config.text)
  | .config (some value) =>
    if draft.config.isSome then .error (.repeated Flag.config.text draft.topic.usage)
    else if value = "" then .error (.missingValue Flag.config.text)
    else .ok { draft with
      config := some value, pending := .none, used := draft.used ++ [.config] }
  | .files given =>
    if given.contains "" then .error (.missingValue filesText)
    else .ok { draft with files := draft.files ++ given, pending := .none }

/-- The flags that count as used when a mistake is reported. What was read last counts with any
value; a second configuration file takes the first one with it. -/
def usedFlags (draft : Draft) : List Flag :=
  match draft.pending with
  | .config (some _) =>
    if draft.used.contains .config then draft.used.erase .config else draft.used ++ [.config]
  | _ => draft.used

def usedFiles (draft : Draft) : Bool :=
  match draft.pending with
  | .files _ => true
  | _ => !draft.files.isEmpty

/-- How the command is used, given the flags that were used so far, unless nothing was. -/
def usageAfter (draft : Draft) (flags : List Flag) : String :=
  if flags.isEmpty && !draft.usedFiles then draft.topic.usage else draft.topic.usageWith flags

def unknownLong (draft : Draft) (name : String) (plain : Bool) : Mistake :=
  let word := "--" ++ name
  match (Text.similar name (draft.topic.flags.map Flag.long)).getLast? with
  | some like =>
    let flag := draft.topic.flags.filter (·.long = like)
    .unknownArgument word [.flag like] (draft.usageAfter (draft.usedFlags ++ flag))
  | none =>
    .unknownArgument word (if plain then [] else [.value word]) (draft.usageAfter draft.usedFlags)

def addPlain (draft : Draft) (word : String) : Except Mistake Draft :=
  match draft.pending with
  | .files given => .ok { draft with pending := .files (given ++ [word]) }
  | _ => (draft.settle).map fun draft => { draft with pending := .files [word] }

def setFailFast (draft : Draft) : Except Mistake Draft :=
  match draft.settle with
  | .error mistake => .error mistake
  | .ok draft =>
    if draft.failFast then .error (.repeated Flag.failFast.text draft.topic.usage)
    else .ok { draft with failFast := true, used := draft.used ++ [.failFast] }

/-- Begins the configuration file; a value that is attached to its flag completes it. -/
def setConfig (draft : Draft) (value : Option String) : Except Mistake Draft :=
  match draft.settle with
  | .error mistake => .error mistake
  | .ok draft =>
    let draft := { draft with pending := .config value }
    if value.isSome then draft.settle else .ok draft

def finish (draft : Draft) : Reading :=
  match draft.settle with
  | .error mistake => .mistake mistake
  | .ok draft =>
    if draft.files.isEmpty then .mistake (.missingFiles (draft.topic.usageWith draft.used))
    else if draft.topic = .check then .command (.check draft.files)
    else .command (.run draft.files draft.config draft.failFast)

end Draft

inductive Progress where
  | next (draft : Draft)
  | done (reading : Reading)

namespace Progress

def of (result : Except Mistake Draft) : Progress :=
  match result with
  | .ok draft => .next draft
  | .error mistake => .done (.mistake mistake)

def page (draft : Draft) (reading : Reading) : Progress :=
  match draft.settle with
  | .ok _ => .done reading
  | .error mistake => .done (.mistake mistake)

end Progress

def readLong (draft : Draft) (name : String) (value : Option String) : Progress :=
  match draft.topic.flags.find? (·.long = name), value with
  | none, _ => .done (.mistake (draft.unknownLong name false))
  | some .config, value => .of (draft.setConfig value)
  | some flag, some value =>
    .done <| .mistake <|
      .extraValue flag.text value (draft.topic.usageWith (draft.used ++ [flag]))
  | some .help, none => .page draft (.page draft.topic)
  | some .version, none => .page draft .version
  | some .failFast, none => .of draft.setFailFast

/-- Reads the letters after a dash; a letter that takes a value takes the rest. -/
def readShort (draft : Draft) : List Char → Progress
  | [] => .next draft
  | c :: rest =>
    match draft.topic.flags.find? (·.short? = some c) with
    | some .config =>
      let value := match rest with
        | [] => none
        | '=' :: value => some (String.ofList value)
        | value => some (String.ofList value)
      .of (draft.setConfig value)
    | some .version => .page draft .version
    | some _ => .page draft (.page draft.topic)
    | none =>
      let word := String.ofList ['-', c]
      .done (.mistake (.unknownArgument word [.value word] draft.topic.usage))

/-- Reads a word of a command. The word after a flag that takes a value is that value, unless it is
a flag itself. -/
def readWord (draft : Draft) (word : String) : Progress :=
  match Word.of word, draft.pending with
  | .long name value, _ => readLong draft name value
  | .short letters, _ => readShort draft letters
  | _, .config none => .next { draft with pending := .config (some word) }
  | _, _ => .of (draft.addPlain word)

def readPlain (draft : Draft) : List String → Reading
  | [] => draft.finish
  | word :: words =>
    match draft.addPlain word with
    | .ok draft => readPlain draft words
    | .error mistake => .mistake mistake

def readWords (draft : Draft) : List String → Reading
  | [] => draft.finish
  | word :: words =>
    match Word.of word with
    | .dashes => readPlain draft words
    | _ =>
      match readWord draft word with
      | .next draft => readWords draft words
      | .done reading => reading

/-! ### The words of the program -/

def readTopic (topic : Topic) : List String → Reading
  | [] => .page topic
  | word :: words =>
    match topic, Topic.ofWord? word with
    | .program, some command => readTopic command words
    | _, _ => .mistake (.unknownCommand word [] topic)

/-- The commands that have a flag like a name, as long as they occur among some words; the one that
occurs first counts. -/
def commandWithFlag? (name : String) (words : List String) : Option Tip :=
  let found := Topic.commands.filterMap fun command =>
    match (Text.similar name (command.flags.map Flag.long)).getLast?, words.idxOf? command.word with
    | some like, some position => some (position, Tip.flagOf command.word like)
    | _, _ => none
  (found.mergeSort fun a b => a.1 ≤ b.1).head?.map (·.2)

def unknownCommand (word : String) : Mistake :=
  let like := Text.similar word (Topic.commands.map Topic.word)
  .unknownCommand word (if like.isEmpty then [] else [.commands like]) .program

def unknownFlag (name : String) (words : List String) : Mistake :=
  let program := Draft.empty .program
  match program.unknownLong name true with
  | .unknownArgument word [] usage =>
    .unknownArgument word (commandWithFlag? name words).toList usage
  | mistake => mistake

def read : List String → Reading
  | [] => .nothing
  | word :: words =>
    match Topic.ofWord? word with
    | some .help => readTopic .program words
    | some topic => readWords (.empty topic) words
    | none =>
      match Word.of word with
      | .dashes =>
        match words with
        | [] => .nothing
        | word :: _ =>
          if (Topic.ofWord? word).isSome then
            .mistake (.unknownArgument word [.noDashes word] Topic.program.usage)
          else .mistake (unknownCommand word)
      | .long name value =>
        match Topic.program.flags.find? (·.long = name), value with
        | none, _ => .mistake (unknownFlag name words)
        | some flag, some value =>
          .mistake (.extraValue flag.text value (Topic.program.usageWith [flag]))
        | some .version, none => .version
        | some _, none => .page .program
      | .short letters =>
        match readShort (.empty .program) letters with
        | .done (.mistake (.unknownArgument word _ usage)) =>
          .mistake (.unknownArgument word [] usage)
        | .done reading => reading
        | .next _ => .nothing
      | .plain word => .mistake (unknownCommand word)

end HttpTest.CommandLine
