/-!
# Labels in ASCII

A label with characters beyond ASCII is written as those of ASCII, a hyphen, and digits in base 36
that say which characters are missing and where. The missing characters come in ascending order,
each as the distance from the one before, and the digits of a distance are weighted so that small
distances are short.
-/

namespace HttpTest.Domain.Punycode

def base : Nat := 36

def minThreshold : Nat := 1

def maxThreshold : Nat := 26

/-- What places and weights have to stay below. -/
def limit : Nat := UInt32.size

/-- The value of a digit: small letters, then decimal digits. -/
def digit? (c : Char) : Option Nat :=
  if 'a' ≤ c ∧ c ≤ 'z' then some (c.toNat - 'a'.toNat)
  else if '0' ≤ c ∧ c ≤ '9' then some (c.toNat - '0'.toNat + 26)
  else none

/-- The digit at a place is the last one of its distance if it is below this. -/
def threshold (place bias : Nat) : Nat := max minThreshold (min maxThreshold (place * base - bias))

/-- The bias that fits a distance, scaled down as long as it is large. -/
def settledBias (places distance : Nat) : Nat :=
  if (base - minThreshold) * maxThreshold / 2 < distance then
    settledBias (places + 1) (distance / (base - minThreshold))
  else places * base + (base - minThreshold + 1) * distance / (distance + 38)
termination_by distance
decreasing_by
  simp only [base, minThreshold, maxThreshold] at *
  omega

/-- The bias for the next distance, after one that made the label `length` characters long. -/
def nextBias (distance length : Nat) (first : Bool) : Nat :=
  let distance := if first then distance / 700 else distance / 2
  settledBias 0 (distance + distance / length)

/-- A distance that a text starts with, and the rest. `value` was read so far, and the next digit is
at `place` and counts `weight` times. -/
def readDistance (bias place weight value : Nat) : List Char → Option (Nat × List Char)
  | [] => none
  | c :: rest =>
    match digit? c with
    | none => none
    | some digit =>
      let value := value + digit * weight
      let threshold := threshold place bias
      if limit ≤ value then none
      else if digit < threshold then some (value, rest)
      else if limit ≤ weight * (base - threshold) then none
      else readDistance bias (place + 1) (weight * (base - threshold)) value rest

theorem length_readDistance {bias place weight value : Nat} {text rest : List Char} {read : Nat}
    (h : readDistance bias place weight value text = some (read, rest)) :
    rest.length < text.length := by
  induction text generalizing place weight value with
  | nil => simp [readDistance] at h
  | cons c text ih =>
    unfold readDistance at h
    split at h
    · simp at h
    · dsimp only at h
      split at h
      · simp at h
      · split at h
        · simp only [Option.some.injEq, Prod.mk.injEq] at h
          simp [← h.2]
        · split at h
          · simp at h
          · exact Nat.lt_succ_of_lt (ih h)

def isCodePoint (n : Nat) : Bool := n < 0xD800 || (0xDFFF < n && n < 0x110000)

/-- The label with the characters that distances add to it. A distance counts the places at which a
character can be added, from `place` on; behind the last one the count starts over, and the code
point goes up by one. -/
def addAll (bias codePoint place : Nat) (label text : List Char) : Option (List Char) :=
  match text with
  | [] => some label
  | c :: rest =>
    match _h : readDistance bias 1 1 0 (c :: rest) with
    | none => none
    | some (distance, after) =>
      let length := label.length + 1
      let count := place + distance
      let codePoint := codePoint + count / length
      if limit ≤ count || !isCodePoint codePoint then none
      else
        addAll (nextBias distance length (place = 0)) codePoint (count % length + 1)
          (label.insertIdx (count % length) (Char.ofNat codePoint)) after
termination_by text.length
decreasing_by exact length_readDistance _h

def firstBias : Nat := 72

def firstCodePoint : Nat := 0x80

/-- The label that a text is written for. What stands before its last hyphen is in the label, and
the rest says what to add. -/
def decode? (text : List Char) : Option (List Char) :=
  let digits := (text.reverse.takeWhile (· ≠ '-')).reverse
  let label := text.take (text.length - digits.length - 1)
  if label.isEmpty then addAll firstBias firstCodePoint 0 [] text
  else addAll firstBias firstCodePoint 0 label digits

end HttpTest.Domain.Punycode
