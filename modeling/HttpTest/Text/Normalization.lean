import HttpTest.Text.Unicode.CombiningClass
import HttpTest.Text.Unicode.Composite

/-!
# Normalized text

Text in which each character that is made up of others stands for itself wherever it can: the
characters are taken apart, the marks after each are put in order, and then they are put together
again.
-/

namespace HttpTest.Text

/-! ### Syllables of Hangul, which are made up by a rule -/

/-- The first syllable. The others follow in the order of their beginning, middle and end. -/
def firstSyllable : Nat := 0xAC00

def firstLead : Nat := 0x1100

def firstVowel : Nat := 0x1161

/-- What is before the first letter that ends a syllable. It stands for no letter. -/
def firstTail : Nat := 0x11A7

def leadCount : Nat := 19

def vowelCount : Nat := 21

/-- How many ways there are to end a syllable, one of them without a letter. -/
def tailCount : Nat := 28

def isSyllable (c : Char) : Bool :=
  firstSyllable ≤ c.toNat && c.toNat < firstSyllable + leadCount * vowelCount * tailCount

def letters? (c : Char) : Option (List Char) :=
  if isSyllable c then
    let n := c.toNat - firstSyllable
    let lead := Char.ofNat (firstLead + n / tailCount / vowelCount)
    let vowel := Char.ofNat (firstVowel + n / tailCount % vowelCount)
    let tail := if n % tailCount = 0 then [] else [Char.ofNat (firstTail + n % tailCount)]
    some (lead :: vowel :: tail)
  else none

/-- The syllable of two letters, or of a syllable without a last letter and that letter. -/
def syllable? (first second : Char) : Option Char :=
  let lead := first.toNat - firstLead
  let vowel := second.toNat - firstVowel
  let tail := second.toNat - firstTail
  if firstLead ≤ first.toNat ∧ lead < leadCount
      ∧ firstVowel ≤ second.toNat ∧ vowel < vowelCount then
    some (Char.ofNat (firstSyllable + (lead * vowelCount + vowel) * tailCount))
  else if isSyllable first ∧ (first.toNat - firstSyllable) % tailCount = 0
      ∧ 0 < tail ∧ tail < tailCount then
    some (Char.ofNat (first.toNat + tail))
  else none

/-! ### Taking apart -/

/-- The characters that a character is made up of, where the first component is taken apart up to a
depth. -/
def decomposeChar (depth : Nat) (c : Char) : List Char :=
  match depth, components? c with
  | depth + 1, some (first, second) => decomposeChar depth first ++ [second]
  | _, _ => (replacement? c).getD ((letters? c).getD [c])

/-- More often than this no first component has a first component of its own. -/
def maxComponentDepth : Nat := 4

def decompose (text : List Char) : List Char := text.flatMap (decomposeChar maxComponentDepth)

/-! ### Putting in order -/

/-- A character before others, behind those of its marks that have a lower class. -/
def insertMark (c : Char) : List Char → List Char
  | [] => [c]
  | d :: rest =>
    if 0 < combiningClass d ∧ combiningClass d < combiningClass c then d :: insertMark c rest
    else c :: d :: rest

def reorder : List Char → List Char
  | [] => []
  | c :: rest => insertMark c (reorder rest)

/-! ### Putting together -/

def combine? (first second : Char) : Option Char :=
  (syllable? first second).or (composite? first second)

/-- The text after a character that takes part in composites. `marks` holds those after it that do
not, the last one first; each keeps characters of its class and of lower ones from it. -/
def composeAfter (starter : Char) (marks : List Char) : List Char → List Char
  | [] => starter :: marks.reverse
  | c :: rest =>
    let reached := marks.head?.all fun mark => combiningClass mark < combiningClass c
    match if reached then combine? starter c else none with
    | some composite => composeAfter composite marks rest
    | none =>
      if combiningClass c = 0 then starter :: marks.reverse ++ composeAfter c [] rest
      else composeAfter starter (c :: marks) rest

def compose : List Char → List Char
  | [] => []
  | c :: rest => if combiningClass c = 0 then composeAfter c [] rest else c :: compose rest

def normalize (text : List Char) : List Char := compose (reorder (decompose text))

end HttpTest.Text
