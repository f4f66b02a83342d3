/-!
# Similarity of words

How alike two words are, from 0 to 1: the mean of the shares of the characters that have a match in
the other word, nearby, and of the matches that are in order. Suggestions are made from words that
reach seven tenths.
-/

namespace HttpTest.Text

structure Ratio where
  num : Nat
  den : Nat

def Ratio.le (a b : Ratio) : Bool := a.num * b.den ≤ b.num * a.den

/-- The first free position, from `low` up to but not including `high`, that holds a character. The
characters come with their positions and with whether they are taken. -/
def findMatch (c : Char) (low high : Nat) (other : List (Char × Nat × Bool)) : Option Nat :=
  let entry := other.find? fun (d, i, taken) => low ≤ i && i < high && d = c && !taken
  entry.map (·.2.1)

def take (position : Nat) (other : List (Char × Nat × Bool)) : List (Char × Nat × Bool) :=
  other.map fun (c, i, taken) => (c, i, taken || i = position)

/-- The characters of a word that have a match in the other one, and the other one with its matches
taken. Positions may differ by `reach`. -/
def matchChars (reach : Nat) (matched : List Char) (other : List (Char × Nat × Bool)) :
    List (Char × Nat) → List Char × List (Char × Nat × Bool)
  | [] => (matched.reverse, other)
  | (c, i) :: rest =>
    match findMatch c (i - reach) (i + reach + 1) other with
    | some position => matchChars reach (c :: matched) (take position other) rest
    | none => matchChars reach matched other rest

def similarity (a b : List Char) : Ratio :=
  if a.isEmpty && b.isEmpty then ⟨1, 1⟩
  else
    let reach := max a.length b.length / 2 - 1
    let (left, other) := matchChars reach [] (b.zipIdx.map fun (c, i) => (c, i, false)) a.zipIdx
    let right := (other.filter (·.2.2)).map (·.1)
    let count := left.length
    let displaced := ((left.zip right).filter fun (c, d) => c ≠ d).length / 2
    if count = 0 then ⟨0, 1⟩
    else
      ⟨count * count * b.length + count * count * a.length
         + (count - displaced) * a.length * b.length,
       3 * a.length * b.length * count⟩

/-- The words among some that are like a word, the most alike last. -/
def similar (word : String) (words : List String) : List String :=
  let scored := words.map fun other => (other, similarity word.toList other.toList)
  let close := scored.filter fun (_, score) => (⟨7, 10⟩ : Ratio).le score
  (close.mergeSort fun a b => a.2.le b.2).map (·.1)

end HttpTest.Text
