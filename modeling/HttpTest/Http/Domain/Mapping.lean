import HttpTest.Http.Domain.MappingTable
import HttpTest.Text.Unicode.Unprintable

/-!
# Characters of domain names

How each character is written in a domain name, if it can be in one at all. Capital letters of ASCII
are written as small ones, and the other characters of ASCII as they are.
-/

namespace HttpTest.Domain

open HttpTest.Text

def joiner : Char := Char.ofNat 0x200D

def nonJoiner : Char := Char.ofNat 0x200C

def mappedChar? (c : Char) : Option Char :=
  let n := c.toNat
  if alternatingRanges.any fun (first, last) => first ≤ n && n ≤ last && (n - first) % 2 = 0 then
    some (Char.ofNat (n + 1))
  else
    let ranges := if n < 0x3000 then lowMapped else if n < 0x10000 then middleMapped else highMapped
    (ranges.find? fun (first, last, _) => first ≤ n && n ≤ last).map fun (first, _, target) =>
      Char.ofNat (target + (n - first))

def spelling? (c : Char) : Option (List Char) :=
  let n := c.toNat
  let table :=
    if n < 0x3000 then lowSpelled
    else if n < 0xF000 then middleSpelled
    else if n < 0x10000 then presentedSpelled
    else highSpelled
  (table.lookup n).map fun ns => ns.map Char.ofNat

def mapChar? (c : Char) : Option (List Char) :=
  if c.toNat < 0x80 then some [c.toLower]
  else match mappedChar? c with
    | some d => some [d]
    | none =>
      match spelling? c with
      | some ds => some ds
      | none =>
        if inRanges ignoredRanges c then some []
        else if c = joiner ∨ c = nonJoiner then some [c]
        else if inRanges disallowedRanges c || !isPrintable c then none
        else some [c]

def isKept (c : Char) : Bool := mapChar? c == some [c]

def mapText? (text : List Char) : Option (List Char) := (text.mapM mapChar?).map List.flatten

end HttpTest.Domain
