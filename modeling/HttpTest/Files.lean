import HttpTest.Text.Basic

/-!
# Files

A directory as far as programs see it: the files below it and, on the way to them, the directories.
A path is followed step by step, and what stops it is the error of reading or writing at it. Nothing
is known of the directories above, but that they are there.
-/

namespace HttpTest

inductive FileError where
  | notFound
  | isDirectory
  | notDirectory
  | nameTooLong
  /-- The path holds a character that no path can. -/
  | notPath
  /-- The file holds bytes that are no text. -/
  | notText
  deriving DecidableEq

def FileError.message : FileError → String
  | .notFound => "No such file or directory (os error 2)"
  | .isDirectory => "Is a directory (os error 21)"
  | .notDirectory => "Not a directory (os error 20)"
  | .nameTooLong => "File name too long (os error 36)"
  | .notPath => "file name contained an unexpected NUL byte"
  | .notText => "stream did not contain valid UTF-8"

/-! ### Paths -/

def rootStep : String := "/"

def hereStep : String := "."

def upStep : String := ".."

/-- The steps of a path, the first of which is the root where the path starts with a separator. -/
def pathSteps (path : String) : List String :=
  let pieces := (Text.splitAtChar '/' path.toList).map String.ofList
  (if pieces.head? = some "" ∧ pieces.length ≠ 1 then [rootStep] else [])
    ++ pieces.filter (· ≠ "")

/-- Whether a separator ends a path, so that it names a directory. -/
def endsWithSeparator (path : String) : Bool := path.toList.getLast? = some '/'

def maxPathBytes : Nat := 4095

def maxNameBytes : Nat := 255

def pathFault? (path : String) : Option FileError :=
  if path.toList.contains '\x00' then some .notPath
  else if path = "" then some .notFound
  else if maxPathBytes < path.utf8ByteSize then some .nameTooLong
  else none

/-- A place, as the steps to it from the working directory without detours: up to the directories
above or to the root, and then down by names. -/
abbrev Place := List String

namespace Place

/-- Whether a place is the working directory, one above it, or the root. -/
def isAbove (place : Place) : Bool := place.all fun step => step = upStep || step = rootStep

/-- The directory above a place. There is none above the root. -/
def up (place : Place) : Place :=
  if place.getLast? = some rootStep then place
  else if place.isAbove then place ++ [upStep]
  else place.dropLast

def after (place : Place) (step : String) : Place :=
  if step = hereStep then place
  else if step = upStep then place.up
  else if step = rootStep then [rootStep]
  else place ++ [step]

def ofSteps (steps : List String) : Place := steps.foldl after []

end Place

/-! ### Trees -/

/-- The files below a directory, and others that are known, with their places. -/
structure FileTree where
  files : List (Place × ByteArray)

namespace FileTree

def ofFiles (files : List (String × ByteArray)) : FileTree :=
  ⟨files.map fun (path, bytes) => (Place.ofSteps (pathSteps path), bytes)⟩

def bytes? (tree : FileTree) (place : Place) : Option ByteArray := tree.files.lookup place

/-- Whether a directory is at a place: the working directory, one above it, or one on the way to a
file. -/
def isDirectory (tree : FileTree) (place : Place) : Bool :=
  place.isAbove ||
    tree.files.any fun (file, _) => place.isPrefixOf file && place.length < file.length

/-- Fails unless a directory is at a place, since only a directory can be gone through. -/
def requireDirectory (tree : FileTree) (place : Place) : Except FileError Unit :=
  if tree.isDirectory place then .ok ()
  else .error (if (tree.bytes? place).isSome then .notDirectory else .notFound)

/-- The place that some steps lead to, whether or not anything is there. -/
def follow (tree : FileTree) (place : Place) : List String → Except FileError Place
  | [] => .ok place
  | step :: steps =>
    match tree.requireDirectory place with
    | .error e => .error e
    | .ok () =>
      if maxNameBytes < step.utf8ByteSize then .error .nameTooLong
      else follow tree (place.after step) steps

def locate (tree : FileTree) (path : String) : Except FileError Place :=
  match pathFault? path with
  | some e => .error e
  | none =>
    tree.follow [] (pathSteps path ++ if endsWithSeparator path then [hereStep] else [])

def has (tree : FileTree) (path : String) : Bool :=
  match tree.locate path with
  | .ok place => (tree.bytes? place).isSome || tree.isDirectory place
  | .error _ => false

def readText (tree : FileTree) (path : String) : Except FileError String :=
  match tree.locate path with
  | .error e => .error e
  | .ok place =>
    if tree.isDirectory place then .error .isDirectory
    else match tree.bytes? place with
      | none => .error .notFound
      | some bytes =>
        match String.fromUTF8? bytes with
        | some text => .ok text
        | none => .error .notText

/-- The place of the file that is to be written at a path, whose directory must be there. -/
def target (tree : FileTree) (path : String) : Except FileError Place := do
  match pathFault? path with
  | some e => .error e
  | none =>
    let steps := pathSteps path
    let parent ← tree.follow [] steps.dropLast
    tree.requireDirectory parent
    if endsWithSeparator path then .error .isDirectory
    else
      let place ← tree.follow parent (steps.drop (steps.length - 1))
      if tree.isDirectory place then .error .isDirectory else .ok place

/-- The tree with a text written to the file at a path, which is made if it is not there. -/
def writeText (tree : FileTree) (path text : String) : Except FileError FileTree :=
  (tree.target path).map fun place =>
    ⟨(place, text.toUTF8) :: tree.files.filter (·.1 ≠ place)⟩

end FileTree

def pathIn (directory name : String) : String :=
  if directory = "" ∨ endsWithSeparator directory then directory ++ name
  else directory ++ "/" ++ name

end HttpTest
