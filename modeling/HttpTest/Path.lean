import HttpTest.Comparison

/-!
# Paths

A path is the sequence of calls that declared a step, with their arguments, such as
`expect().header("X").len(5)`. A step can be addressed by the first calls of its path, with as many
of their arguments as matter.
-/

namespace HttpTest

structure Segment where
  name : String
  arguments : List Value
  deriving DecidableEq

namespace Segment

/-- Equality as data, with numbers compared as numbers. -/
def same (a b : Segment) : Bool := a.name == b.name && Value.sameItems a.arguments b.arguments

/-- The call as it is written, as in `len(5)`. -/
def text (segment : Segment) : List Char :=
  segment.name.toList ++ '(' :: Text.joinWith [',', ' '] (segment.arguments.map Value.compact)
    ++ [')']

end Segment

/-- Whether each pattern accepts the argument at its place; there may be more arguments. -/
def argumentsStartWith : (patterns arguments : List Value) → Bool
  | [], _ => true
  | _ :: _, [] => false
  | pattern :: patterns, argument :: arguments =>
      (Check.equal pattern argument).isOk && argumentsStartWith patterns arguments

/-- Whether each pattern accepts the argument at its place and there are no more arguments. -/
def argumentsMatch (patterns arguments : List Value) : Bool :=
  patterns.length == arguments.length && argumentsStartWith patterns arguments

/-- The calls that declared a step, from the first one on. -/
structure Path where
  segments : List Segment
  deriving DecidableEq

namespace Path

def root : Path := ⟨[]⟩

def push (path : Path) (name : String) (arguments : List Value) : Path :=
  ⟨path.segments ++ [⟨name, arguments⟩]⟩

def skip (path : Path) (n : Nat) : Path := ⟨path.segments.drop n⟩

def size (path : Path) : Nat := path.segments.length

def isEmpty (path : Path) : Bool := path.segments.isEmpty

def same (a b : Path) : Bool :=
  a.size == b.size && (a.segments.zip b.segments).all fun (s, t) => s.same t

/-- Whether two paths make the same calls with equal arguments, where a call without arguments on
either side stands for one with any arguments. -/
def equals (a b : Path) : Bool :=
  a.size == b.size && (a.segments.zip b.segments).all fun (s, t) =>
    s.name == t.name &&
      (s.arguments.isEmpty || t.arguments.isEmpty || argumentsMatch s.arguments t.arguments)

/-- Whether the names of `first` are the first names of the path. Arguments do not matter. -/
def startsWith (path first : Path) : Bool :=
  first.size ≤ path.size && (first.segments.zip path.segments).all fun (s, t) => s.name == t.name

/-- Whether a pattern addresses a path: it makes the first calls of the path, each without arguments
or with ones that equal the first arguments of the call. -/
def clears (pattern target : Path) : Bool :=
  target.startsWith pattern && (pattern.segments.zip target.segments).all fun (s, t) =>
    s.arguments.isEmpty || argumentsStartWith s.arguments t.arguments

def text (path : Path) : String :=
  String.ofList (Text.joinWith ['.'] (path.segments.map Segment.text))

end Path

end HttpTest
