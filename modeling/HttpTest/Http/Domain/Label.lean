import HttpTest.Http.Domain.Mapping
import HttpTest.Http.Domain.Punycode
import HttpTest.Text.Normalization
import HttpTest.Text.Unicode.Direction
import HttpTest.Text.Unicode.Joining

/-!
# Labels

The parts of a domain name between its dots, and what keeps a text from being one. A label that
starts with `xn--` stands for another one, which has characters beyond ASCII.
-/

namespace HttpTest.Domain

open HttpTest.Text

def isAscii (text : List Char) : Bool := text.all (·.toNat < 0x80)

def isForbidden (c : Char) : Bool :=
  c.toNat ≤ 0x20 || c.toNat = 0x7F || "#/:<>?@[\\]^|%".toList.contains c

/-! ### Labels that stand for others -/

def encodedStart : List Char := ['x', 'n', '-', '-']

def maxEncodedLength : Nat := 2000

/-- The label that the rest of an encoded label is written for. It must be one that cannot be
written in another way. -/
def decoded? (rest : List Char) : Option (List Char) :=
  if rest.getLast? = some '-' ∨ maxEncodedLength < rest.length then none
  else
    match Punycode.decode? rest with
    | none => none
    | some label =>
      if !isAscii label && label.all isKept && normalize label = label then some label else none

/-- The label that a text stands for, itself unless it is encoded. -/
def meant? (text : List Char) : Option (List Char) :=
  if encodedStart.isPrefixOf text then
    if isAscii text then decoded? (text.drop encodedStart.length) else none
  else some text

/-! ### Signs that join letters -/

/-- Whether a sign that joins letters or keeps them apart has a reason to be between `before`, the
last character first, and `after`. -/
def isJustified (sign : Char) (before after : List Char) : Bool :=
  before.head?.any isVirama ||
    (sign = nonJoiner && (before.dropWhile isTransparent).head?.any joinsNext
      && (after.dropWhile isTransparent).head?.any joinsPrevious)

/-- Whether all such signs have a reason. `before` holds the characters before the others, the last
one first. -/
def joinersFit (before : List Char) : List Char → Bool
  | [] => true
  | c :: rest =>
    (if c = joiner ∨ c = nonJoiner then isJustified c before rest else true)
      && joinersFit (c :: before) rest

/-! ### Labels by themselves -/

/-- The greatest length of a label with characters beyond ASCII. -/
def maxLength : Nat := 1000

/-- Whether a text can be a label, whatever the other labels are. -/
def isLabel (text : List Char) : Bool :=
  !text.any isForbidden && !text.head?.any isMark && joinersFit [] text
    && (isAscii text || text.length ≤ maxLength)

/-! ### Labels beside others that are written from right to left -/

def hasRight (text : List Char) : Bool :=
  text.any fun c => direction c = .right || direction c = .arabicNumber

/-- Whether a label is written in one direction. From left to right it starts with a letter, ends
with a letter or number, and has nothing of the other direction. From right to left it starts with a
letter, ends with a letter or number, has no letter of the other direction, and numbers of one kind
only. Marks at the end do not count. -/
def isOneWay (label : List Char) : Bool :=
  let directions := label.map direction
  let last := (directions.reverse.dropWhile (· = .mark)).head?
  match directions with
  | [] => true
  | .left :: _ =>
    last.any (fun d => d = .left || d = .europeanNumber)
      && directions.all fun d => d ≠ .right && d ≠ .arabicNumber
  | .right :: _ =>
    last.any (fun d => d = .right || d = .europeanNumber || d = .arabicNumber)
      && !directions.contains .left
      && !(directions.contains .europeanNumber && directions.contains .arabicNumber)
  | _ => false

end HttpTest.Domain
