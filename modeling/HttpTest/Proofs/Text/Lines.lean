import Mathlib.Tactic.SplitIfs
import HttpTest.Text.Difference
import HttpTest.Text.Quoted
import HttpTest.Proofs.Text.Digits

/-!
# Lines that come back

A text may lose something when it is taken apart into lines: an empty line at its end, or a carriage
return before a line feed. A `Lined` text does not, since each of its lines is there to be seen and
holds no line break; such texts stay `Lined` under what a writer does that indents and brackets. A
quoted string is one such line, whatever stands in it.
-/

namespace HttpTest.Text

variable {text before after first second : List Char}

/-! ## Texts without line breaks -/

/-- There is neither a line feed nor a carriage return in a text. -/
def Unbroken (text : List Char) : Prop := ∀ c ∈ text, c ≠ '\n' ∧ c ≠ '\r'

instance (text : List Char) : Decidable (Unbroken text) := List.decidableBAll _ text

theorem Unbroken.of_subset (h : Unbroken text) (hsub : after ⊆ text) : Unbroken after :=
  fun c hc => h c (hsub hc)

@[simp] theorem unbroken_append :
    Unbroken (first ++ second) ↔ Unbroken first ∧ Unbroken second := List.forall_mem_append

@[simp] theorem unbroken_cons {c : Char} :
    Unbroken (c :: text) ↔ (c ≠ '\n' ∧ c ≠ '\r') ∧ Unbroken text := List.forall_mem_cons

theorem unbroken_replicate {c : Char} (hc : c ≠ '\n' ∧ c ≠ '\r') (n : Nat) :
    Unbroken (List.replicate n c) := by
  intro c' hc'
  rw [List.eq_of_mem_replicate hc']
  exact hc

theorem unbroken_toDigits {base : Nat} (hbase : 1 < base) (n : Nat) :
    Unbroken (Nat.toDigits base n) :=
  forall_mem_toDigits
    (fun _ => ⟨Nat.digitChar_ne '\n' (by decide), Nat.digitChar_ne '\r' (by decide)⟩) hbase n

/-! ## Single lines -/

/-- A line that is found again in a text: there is something of it, and it breaks nowhere. -/
structure IsLine (line : List Char) : Prop where
  ne_nil : line ≠ []
  unbroken : Unbroken line

instance (line : List Char) : Decidable (IsLine line) :=
  decidable_of_iff (line ≠ [] ∧ Unbroken line)
    ⟨fun h => ⟨h.1, h.2⟩, fun h => ⟨h.ne_nil, h.unbroken⟩⟩

theorem IsLine.no_line_feed (h : IsLine text) : '\n' ∉ text := fun hc => (h.unbroken _ hc).1 rfl

theorem IsLine.no_carriage_return (h : IsLine text) : '\r' ∉ text :=
  fun hc => (h.unbroken _ hc).2 rfl

theorem IsLine.prepend (h : IsLine text) (hbefore : Unbroken before) : IsLine (before ++ text) :=
  ⟨List.append_ne_nil_of_right_ne_nil before h.ne_nil, unbroken_append.2 ⟨hbefore, h.unbroken⟩⟩

theorem IsLine.append (h : IsLine text) (hafter : Unbroken after) : IsLine (text ++ after) :=
  ⟨List.append_ne_nil_of_left_ne_nil h.ne_nil after, unbroken_append.2 ⟨h.unbroken, hafter⟩⟩

theorem unbroken_quotedChar (c : Char) : Unbroken (quotedChar c) := by
  have hescape : Unbroken (codePointEscape c) :=
    unbroken_append.2 ⟨unbroken_append.2 ⟨by decide, unbroken_toDigits (by decide) _⟩, by decide⟩
  unfold quotedChar
  split_ifs with hquote hbackslash hfeed hreturn
  -- past the two line breaks a character stands for itself
  all_goals first
    | decide
    | exact hescape
    | exact unbroken_cons.2 ⟨⟨hfeed, hreturn⟩, List.forall_mem_nil _⟩

theorem isLine_quoted (s : String) : IsLine (quoted s) := by
  have hinside : Unbroken (s.toList.flatMap quotedChar) := by
    intro c hc
    obtain ⟨escaped, -, hmem⟩ := List.mem_flatMap.1 hc
    exact unbroken_quotedChar escaped c hmem
  refine ⟨List.cons_ne_nil _ _, ?_⟩
  rw [quoted]
  exact unbroken_append.2 ⟨unbroken_cons.2 ⟨by decide, hinside⟩, by decide⟩

/-! ## Lines that are joined and split again -/

theorem dropCarriageReturn_of_not_mem (h : '\r' ∉ text) : dropCarriageReturn text = text := by
  rw [dropCarriageReturn, if_neg]
  intro hlast
  exact h (List.mem_of_getLast? hlast)

theorem lines_joinWith {pieces : List (List Char)} (h : ∀ line ∈ pieces, IsLine line) :
    lines (joinWith ['\n'] pieces) = pieces := by
  rcases List.eq_nil_or_concat pieces with rfl | ⟨ended, last, rfl⟩
  · rfl
  · rw [List.concat_eq_append] at h ⊢
    obtain ⟨hended, hlast⟩ := List.forall_mem_append.1 h
    have hsplit : splitAtChar '\n' (joinWith ['\n'] (ended ++ [last])) = ended ++ [last] :=
      splitAtChar_joinWith (List.append_ne_nil_of_right_ne_nil ended (List.cons_ne_nil last []))
        fun line hline => (h line hline).no_line_feed
    have hkept : ended.map dropCarriageReturn = ended := by
      rw [List.map_congr_left fun line hline =>
        dropCarriageReturn_of_not_mem (hended line hline).no_carriage_return]
      exact List.map_id' ended
    have hnonempty : last.isEmpty = false :=
      List.isEmpty_eq_false_iff.2 (hlast last List.mem_cons_self).ne_nil
    rw [lines, hsplit, List.reverse_concat]
    simp only [List.map_reverse, List.reverse_reverse, hkept, hnonempty, Bool.false_eq_true,
      if_false]

theorem joinWith_linesOf (text : List Char) : joinWith ['\n'] (linesOf text) = text := by
  rw [linesOf]
  split
  · rename_i hempty
    rw [List.isEmpty_iff.1 hempty]
    rfl
  · exact joinWith_splitAtChar '\n' text

/-! ## Texts of several lines -/

/-- A text that is made of lines, with a line feed between each and the next. -/
inductive Lined : List Char → Prop
  | line {line : List Char} : IsLine line → Lined line
  | break {line rest : List Char} : IsLine line → Lined rest → Lined (line ++ '\n' :: rest)

theorem Lined.prepend (h : Lined text) (hbefore : Unbroken before) : Lined (before ++ text) := by
  cases h with
  | line hline => exact .line (hline.prepend hbefore)
  | «break» hline hrest =>
    rw [← List.append_assoc]
    exact .break (hline.prepend hbefore) hrest

theorem Lined.append (h : Lined text) (hafter : Unbroken after) : Lined (text ++ after) := by
  induction h with
  | line hline => exact .line (hline.append hafter)
  | «break» hline _ ih =>
    rw [List.append_assoc, List.cons_append]
    exact .break hline ih

theorem Lined.join (hfirst : Lined first) (hsecond : Lined second) :
    Lined (first ++ '\n' :: second) := by
  induction hfirst with
  | line hline => exact .break hline hsecond
  | «break» hline _ ih =>
    rw [List.append_assoc, List.cons_append]
    exact .break hline ih

theorem Lined.isLine (h : Lined text) : ∀ line ∈ linesOf text, IsLine line := by
  have hsplit : ∀ line ∈ splitAtChar '\n' text, IsLine line := by
    induction h with
    | line hline =>
      rw [splitAtChar_of_not_mem hline.no_line_feed]
      exact List.forall_mem_singleton.2 hline
    | «break» hline _ ih =>
      rw [splitAtChar_append, splitAtChar_of_not_mem hline.no_line_feed]
      exact List.forall_mem_cons.2 ⟨hline, ih⟩
  rw [linesOf]
  split
  · exact List.forall_mem_nil _
  · exact hsplit

/-- The two ways to take a text apart agree, as no line is lost when it is joined again. -/
theorem Lined.lines_eq (h : Lined text) : lines text = linesOf text := by
  have hjoin := lines_joinWith h.isLine
  rwa [joinWith_linesOf] at hjoin

/-- More parts, each of which begins a line of its own behind a comma. -/
theorem Lined.append_parts {parts : List (List Char)} (h : Lined text)
    (hparts : ∀ part ∈ parts, Lined part) :
    Lined (text ++ parts.flatMap ([',', '\n'] ++ ·)) := by
  induction parts generalizing text with
  | nil => rwa [List.flatMap_nil, List.append_nil]
  | cons part parts ih =>
    obtain ⟨hpart, hrest⟩ := List.forall_mem_cons.1 hparts
    have hnext : Lined ((text ++ [',']) ++ '\n' :: part) := (h.append (by decide)).join hpart
    have hwhole := ih hnext hrest
    simpa using hwhole

theorem Lined.bracketed {opening closing : List Char} (h : Lined text) (hopening : IsLine opening)
    (hclosing : IsLine closing) : Lined (opening ++ '\n' :: text ++ '\n' :: closing) :=
  (Lined.break hopening h).join (.line hclosing)

end HttpTest.Text
