import Mathlib.Data.List.Basic
import HttpTest.Proofs.Text.Lines

/-!
# What line differences keep

The lines that are kept are lines of both texts, in order (`followedCommon_sublist`), whichever way
the lengths of common subsequences were followed. So the lines kept or removed are the first text
and those kept or added are the second. Of `Lined` texts both can be read off any such changes as
they are written (`sides_of_written`).
-/

namespace HttpTest.Text

/-! ## The common subsequence -/

section

variable {α : Type} {x y : α} {xs ys seen common : List α}

/-- What is followed is a subsequence of both texts. All three are written with the last line
first. -/
def Common.Within (xs ys : List α) (cell : Common α) : Prop :=
  cell.reversed.Sublist xs ∧ cell.reversed.Sublist ys

/-- What is known of the initial segments of the second text that end behind `seen`, one line of
`ys` after the other, are subsequences of these segments and of `xs`. -/
inductive RowWithin (xs : List α) : (seen : List α) → List (Common α) → List α → Prop
  | nil {seen : List α} : RowWithin xs seen [] []
  | cons {seen : List α} {cell : Common α} {row : List (Common α)} {y : α} {ys : List α}
      (hcell : cell.Within xs (y :: seen)) (hrow : RowWithin xs (y :: seen) row ys) :
      RowWithin xs seen (cell :: row) (y :: ys)

theorem rowWithin_blank (seen ys : List α) :
    RowWithin [] seen (ys.map fun _ => ⟨0, []⟩) ys := by
  induction ys generalizing seen with
  | nil => exact .nil
  | cons y ys ih => exact .cons ⟨List.nil_sublist _, List.nil_sublist _⟩ (ih (y :: seen))

theorem RowWithin.getLastD {row : List (Common α)} (h : RowWithin xs seen row ys)
    {cell : Common α} (hcell : cell.Within xs seen) :
    (row.getLastD cell).Within xs (ys.reverse ++ seen) := by
  induction h generalizing cell with
  | nil => exact hcell
  | cons hnext _ ih =>
    rw [List.getLastD_cons, List.reverse_cons, List.append_assoc]
    exact ih hnext

variable [DecidableEq α]

theorem Common.within_extend {without left both : Common α}
    (hwithout : without.Within xs (y :: seen)) (hleft : left.Within (x :: xs) seen)
    (hboth : both.Within xs seen) :
    (Common.extend x y without left both).Within (x :: xs) (y :: seen) := by
  unfold extend
  split
  · rename_i hxy
    subst hxy
    exact ⟨hboth.1.cons_cons x, hboth.2.cons_cons x⟩
  · split
    · exact ⟨hleft.1, hleft.2.cons y⟩
    · exact ⟨hwithout.1.cons x, hwithout.2⟩

theorem Common.within_extendFirst {without : Common α} (h : without.Within xs [y])
    (above : Common α) : (Common.extendFirst x y without above).Within (x :: xs) [y] := by
  unfold extendFirst
  split
  · rename_i hxy
    subst hxy
    exact ⟨(List.nil_sublist xs).cons_cons x, List.Sublist.refl [x]⟩
  · split
    · exact ⟨List.nil_sublist _, List.nil_sublist _⟩
    · exact ⟨h.1.cons x, h.2⟩

theorem rowWithin_nextCells {row : List (Common α)} {left both : Common α}
    (h : RowWithin xs seen row ys) (hleft : left.Within (x :: xs) seen)
    (hboth : both.Within xs seen) : RowWithin (x :: xs) seen (nextCells x left both row ys) ys := by
  induction h generalizing left both with
  | nil => exact .nil
  | cons hcell _ ih =>
    have hnext := Common.within_extend hcell hleft hboth
    exact .cons hnext (ih hnext hcell)

theorem rowWithin_nextRow {row : List (Common α)} (h : RowWithin xs [] row ys) (x : α) :
    RowWithin (x :: xs) [] (nextRow x row ys) ys := by
  cases h with
  | nil => exact .nil
  | cons hcell hrow =>
    have hfirst := Common.within_extendFirst (x := x) hcell
    exact .cons (hfirst _) (rowWithin_nextCells hrow (hfirst _) hcell)

theorem rowWithin_foldl {row : List (Common α)} (h : RowWithin seen [] row ys) (xs : List α) :
    RowWithin (xs.reverse ++ seen) [] (xs.foldl (fun row x => nextRow x row ys) row) ys := by
  induction xs generalizing seen row with
  | nil => exact h
  | cons x xs ih =>
    rw [List.reverse_cons, List.append_assoc]
    exact ih (rowWithin_nextRow h x)

/-- The lines that are followed are lines of both texts, in order. -/
theorem followedCommon_sublist (xs ys : List α) :
    (followedCommon xs ys).Sublist xs ∧ (followedCommon xs ys).Sublist ys := by
  have hrow := rowWithin_foldl (rowWithin_blank [] ys) xs
  have hblank : Common.Within (xs.reverse ++ []) [] ⟨0, []⟩ :=
    ⟨List.nil_sublist _, List.nil_sublist _⟩
  obtain ⟨hxs, hys⟩ := hrow.getLastD hblank
  rw [List.append_nil] at hxs hys
  exact ⟨List.reverse_sublist.1 (by rwa [followedCommon, List.reverse_reverse]),
    List.reverse_sublist.1 (by rwa [followedCommon, List.reverse_reverse])⟩

/-! ## The changes -/

def Change.old? : Change α → Option α
  | .kept line | .removed line => some line
  | .added _ => none

def Change.new? : Change α → Option α
  | .kept line | .added line => some line
  | .removed _ => none

/-- A common line is found where it comes first, and the lines after it are still to come. -/
theorem takeWhile_append_cons_tail {c : α} (h : (c :: common).Sublist xs) :
    xs.takeWhile (· ≠ c) ++ c :: (xs.dropWhile (· ≠ c)).tail = xs ∧
      common.Sublist (xs.dropWhile (· ≠ c)).tail := by
  induction xs with
  | nil => cases h
  | cons x xs ih =>
    by_cases hx : x = c
    · subst hx
      simpa using List.cons_sublist_cons.1 h
    · have hrest : (c :: common).Sublist xs := by
        cases h with
        | cons _ h => exact h
        | cons_cons _ _ => exact absurd rfl hx
      obtain ⟨hwhole, hcommon⟩ := ih hrest
      rw [List.takeWhile_cons_of_pos (by simpa using hx),
        List.dropWhile_cons_of_pos (by simpa using hx), List.cons_append, hwhole]
      exact ⟨rfl, hcommon⟩

theorem filterMap_old?_align (h : common.Sublist xs) (ys : List α) :
    (align xs ys common).filterMap Change.old? = xs := by
  induction common generalizing xs ys with
  | nil => simp [align, Change.old?, List.filterMap_map, Function.comp_def]
  | cons c common ih =>
    obtain ⟨hwhole, hcommon⟩ := takeWhile_append_cons_tail h
    have hrest := ih hcommon (ys.dropWhile (· ≠ c)).tail
    have hkept : (Change.kept c).old? = some c := rfl
    rw [align, List.filterMap_append, List.filterMap_append, List.filterMap_cons_some hkept, hrest]
    simpa [Change.old?, List.filterMap_map, Function.comp_def] using hwhole

theorem filterMap_new?_align (h : common.Sublist ys) (xs : List α) :
    (align xs ys common).filterMap Change.new? = ys := by
  induction common generalizing xs ys with
  | nil => simp [align, Change.new?, List.filterMap_map, Function.comp_def]
  | cons c common ih =>
    obtain ⟨hwhole, hcommon⟩ := takeWhile_append_cons_tail h
    have hrest := ih hcommon (xs.dropWhile (· ≠ c)).tail
    have hkept : (Change.kept c).new? = some c := rfl
    rw [align, List.filterMap_append, List.filterMap_append, List.filterMap_cons_some hkept, hrest]
    simpa [Change.new?, List.filterMap_map, Function.comp_def] using hwhole

end

/-- The changes lead from the first list of lines to the second. -/
theorem filterMap_changes (xs ys : List (List Char)) :
    (changes xs ys).filterMap Change.old? = xs ∧ (changes xs ys).filterMap Change.new? = ys := by
  have hcommon : ∀ common : List (List Char), common.Sublist xs → common.Sublist ys →
      (align xs ys common).filterMap Change.old? = xs ∧
        (align xs ys common).filterMap Change.new? = ys :=
    fun common hxs hys => ⟨filterMap_old?_align hxs ys, filterMap_new?_align hys xs⟩
  rw [changes]
  split
  · exact hcommon [] (List.nil_sublist _) (List.nil_sublist _)
  · exact hcommon _ (followedCommon_sublist xs ys).1 (followedCommon_sublist xs ys).2

/-! ## The difference as it is written -/

theorem flatMap_runs (marked : List (Char × List Char)) :
    ((runs marked).flatMap fun run => run.2.map (run.1, ·)) = marked := by
  induction marked with
  | nil => rfl
  | cons first rest ih =>
    obtain ⟨mark, line⟩ := first
    rw [runs]
    split
    · rename_i next lines more hruns
      rw [hruns] at ih
      split
      · rename_i heq
        subst heq
        simpa using ih
      · simpa using ih
    · rename_i hruns
      rw [hruns] at ih
      simpa using ih

/-- Changes as they are written: each run of one sign is joined and taken apart again, and the sign
and a blank stand before each of its lines. -/
def written (steps : List (Change (List Char))) : List (List Char) :=
  (runs (steps.map Change.marked)).flatMap fun (mark, run) =>
    (lines (joinWith ['\n'] run)).map fun line => mark :: ' ' :: line

theorem difference_eq_written (a b : List Char) :
    difference a b = written (changes (linesOf a) (linesOf b)) := rfl

def signed (marked : Char × List Char) : List Char := marked.1 :: ' ' :: marked.2

/-- The lines of a written difference with one of some signs, without sign and blank. -/
def side (signs : List Char) (text : List Char) : List (List Char) :=
  ((lines text).filter fun line => line.head?.any signs.contains).map (·.drop 2)

section

variable {steps : List (Change (List Char))} {a b : List Char}

theorem written_eq_map (h : ∀ change ∈ steps, IsLine change.marked.2) :
    written steps = steps.map fun change => signed change.marked := by
  have hrun : ∀ run ∈ runs (steps.map Change.marked), lines (joinWith ['\n'] run.2) = run.2 := by
    intro run hmem
    refine lines_joinWith fun line hline => ?_
    have hmarked : (run.1, line) ∈ steps.map Change.marked := by
      rw [← flatMap_runs (steps.map Change.marked)]
      exact List.mem_flatMap.2 ⟨run, hmem, List.mem_map_of_mem hline⟩
    obtain ⟨change, hchange, heq⟩ := List.mem_map.1 hmarked
    have hline := h change hchange
    rwa [heq] at hline
  calc
    written steps
      = (runs (steps.map Change.marked)).flatMap fun run => (run.2.map (run.1, ·)).map signed := by
        refine List.flatMap_congr fun run hmem => ?_
        show (lines (joinWith ['\n'] run.2)).map _ = _
        rw [hrun run hmem, List.map_map]
        rfl
    _ = (steps.map Change.marked).map signed := by rw [← List.map_flatMap, flatMap_runs]
    _ = steps.map fun change => signed change.marked := List.map_map

theorem isLine_signed {change : Change (List Char)} (h : IsLine change.marked.2) :
    IsLine (signed change.marked) := by
  cases change with
  | kept line => exact h.prepend (show Unbroken [' ', ' '] by decide)
  | removed line => exact h.prepend (show Unbroken ['-', ' '] by decide)
  | added line => exact h.prepend (show Unbroken ['+', ' '] by decide)

/-- What the lines with some signs say is what the changes with these signs are about. -/
theorem side_written (h : ∀ change ∈ steps, IsLine change.marked.2) {signs : List Char}
    {line? : Change (List Char) → Option (List Char)}
    (hline : ∀ change, line? change
      = if signs.contains change.marked.1 then some change.marked.2 else none) :
    side signs (joinWith ['\n'] (written steps)) = steps.filterMap line? := by
  have hsigned : ∀ line ∈ steps.map fun change => signed change.marked, IsLine line :=
    List.forall_mem_map.2 fun change hchange => isLine_signed (h change hchange)
  rw [side, written_eq_map h, lines_joinWith hsigned, List.filter_map, List.map_map,
    ← List.filterMap_eq_map, List.filterMap_filter]
  refine List.filterMap_congr fun change _ => ?_
  rw [hline]
  rfl

/-- Both texts can be read off any changes that lead from one to the other, as they are written. -/
theorem sides_of_written (hold : steps.filterMap Change.old? = linesOf a)
    (hnew : steps.filterMap Change.new? = linesOf b) (ha : Lined a) (hb : Lined b) :
    side [' ', '-'] (joinWith ['\n'] (written steps)) = lines a ∧
    side [' ', '+'] (joinWith ['\n'] (written steps)) = lines b := by
  have hlines : ∀ change ∈ steps, IsLine change.marked.2 := by
    intro change hchange
    -- it is about a line of the first text or of the second
    cases change with
    | kept line => exact ha.isLine line (hold ▸ List.mem_filterMap.2 ⟨_, hchange, rfl⟩)
    | removed line => exact ha.isLine line (hold ▸ List.mem_filterMap.2 ⟨_, hchange, rfl⟩)
    | added line => exact hb.isLine line (hnew ▸ List.mem_filterMap.2 ⟨_, hchange, rfl⟩)
  rw [ha.lines_eq, hb.lines_eq, ← hold, ← hnew]
  constructor
  · exact side_written hlines fun change => by cases change <;> rfl
  · exact side_written hlines fun change => by cases change <;> rfl

/-- What has the signs for one text in the difference is that text, line by line. -/
theorem sides_of_difference (ha : Lined a) (hb : Lined b) :
    side [' ', '-'] (joinWith ['\n'] (difference a b)) = lines a ∧
    side [' ', '+'] (joinWith ['\n'] (difference a b)) = lines b := by
  obtain ⟨hold, hnew⟩ := filterMap_changes (linesOf a) (linesOf b)
  rw [difference_eq_written]
  exact sides_of_written hold hnew ha hb

end

end HttpTest.Text
