/-!
# Ranges of characters

Properties of characters are given by the ranges of code points that have them.
-/

namespace HttpTest.Text

/-- Whether a character is in one of some ranges, each given by its first and last code point. -/
def inRanges (ranges : List (Nat × Nat)) (c : Char) : Bool :=
  ranges.any fun (first, last) => first ≤ c.toNat && c.toNat ≤ last

end HttpTest.Text
