import HttpTest.Text.Basic

/-!
# Line differences

Two texts are compared through a common subsequence of their lines, which is followed back from
their ends through the lengths of the longest ones. The lines of the first text are those that are
kept or removed, in order, and the lines of the second those that are kept or added.
-/

namespace HttpTest.Text

inductive Change (α : Type) where
  | kept (line : α)
  | removed (line : α)
  | added (line : α)
  deriving DecidableEq

section
variable {α : Type} [DecidableEq α]

/-- What is known of two initial segments: the length of their longest common subsequences, and the
one that was followed, the last line first. -/
structure Common (α : Type) where
  length : Nat
  reversed : List α

/-- What is known when the first text ends with `x` and the second with `y`, from what is known
without `x`, without `y`, and without both. A line at the end of both is always kept. Of two
subsequences of one length the one that does without `x` is followed. -/
def Common.extend (x y : α) (without left both : Common α) : Common α :=
  if x = y then ⟨both.length + 1, x :: both.reversed⟩
  else if without.length < left.length then left
  else without

/-- What is known when the second text has the one line `y`. With nothing to the left, `without` is
measured against `above`, which knows the second text to its end: where that one is longer, nothing
is followed any more. -/
def Common.extendFirst (x y : α) (without above : Common α) : Common α :=
  if x = y then ⟨1, [x]⟩
  else if without.length < above.length then ⟨without.length, []⟩
  else without

/-- What is known of each initial segment of the second text but the first, after one more line `x`
of the first text. `row` holds what was known before it, from `both` on, and `left` was found
last. -/
def nextCells (x : α) (left both : Common α) : (row : List (Common α)) → (ys : List α) →
    List (Common α)
  | without :: row, y :: ys =>
    let cell := Common.extend x y without left both
    cell :: nextCells x cell without row ys
  | _, _ => []

def nextRow (x : α) : (row : List (Common α)) → (ys : List α) → List (Common α)
  | without :: row, y :: ys =>
    let cell := Common.extendFirst x y without ((without :: row).getLastD without)
    cell :: nextCells x cell without row ys
  | _, _ => []

def followedCommon (xs ys : List α) : List α :=
  let none : Common α := ⟨0, []⟩
  let row := xs.foldl (fun row x => nextRow x row ys) (ys.map fun _ => none)
  (row.getLastD none).reversed.reverse

/-- The changes that lead from `xs` to `ys` when the lines of `common` are kept. Before each of them
come the lines removed, then the lines added. -/
def align (xs ys : List α) : (common : List α) → List (Change α)
  | [] => xs.map .removed ++ ys.map .added
  | c :: common =>
    (xs.takeWhile (· ≠ c)).map .removed ++ (ys.takeWhile (· ≠ c)).map .added ++
      .kept c :: align (xs.dropWhile (· ≠ c)).tail (ys.dropWhile (· ≠ c)).tail common

end

def Change.marked : Change (List Char) → Char × List Char
  | .kept line => (' ', line)
  | .removed line => ('-', line)
  | .added line => ('+', line)

def runs : List (Char × List Char) → List (Char × List (List Char))
  | [] => []
  | (mark, line) :: rest =>
    match runs rest with
    | (next, lines) :: more =>
      if mark = next then (mark, line :: lines) :: more else (mark, [line]) :: (next, lines) :: more
    | [] => [(mark, [line])]

/-- The lines of a text. An empty text has none. -/
def linesOf (text : List Char) : List (List Char) :=
  if text.isEmpty then [] else splitAtChar '\n' text

/-- The changes between two lists of lines. A single empty line is not worth keeping. -/
def changes (xs ys : List (List Char)) : List (Change (List Char)) :=
  let common := followedCommon xs ys
  align xs ys (if common = [[]] then [] else common)

/-- The changes between the lines of two texts, each with its sign and a blank before it. -/
def difference (a b : List Char) : List (List Char) :=
  (runs ((changes (linesOf a) (linesOf b)).map Change.marked)).flatMap fun (mark, run) =>
    (lines (joinWith ['\n'] run)).map fun line => mark :: ' ' :: line

end HttpTest.Text
