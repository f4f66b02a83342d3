import Mathlib.Data.List.TakeWhile
import Mathlib.Tactic.SplitIfs
import HttpTest.Proofs.Text.Digits
import HttpTest.Text.Quoted

/-!
# Texts that are told apart

What was written is found again if nothing that may come behind a text changes where it ends
(`TellsApart`). That passes from the parts to a sequence of them which a closing mark ends
(`flatMap_inj_of_tellsApart`), and to such a sequence between brackets. A quoted string is one: no
escape begins another, and none begins with a quotation mark.
-/

namespace HttpTest.Text

variable {α : Type} {write : α → List Char} {inside : Char → Bool} {closing : Char}
  {first second : α} {firsts seconds : List α} {after after' : List Char}

/-- No character that would belong to the text before it comes first. -/
def Stops (inside : Char → Bool) (after : List Char) : Prop := after.takeWhile inside = []

theorem stops_nil : Stops inside [] := rfl

theorem stops_cons {c : Char} (h : inside c = false) : Stops inside (c :: after) :=
  List.takeWhile_cons_of_neg (by rw [h]; exact Bool.false_ne_true)

/-- Two things whose texts are the same up to what comes behind them are one, and the same comes
behind, as long as that does not go on with what is inside of a text. -/
def TellsApart (write : α → List Char) (inside : Char → Bool) (first second : α) : Prop :=
  ∀ ⦃after after' : List Char⦄, Stops inside after → Stops inside after' →
    write first ++ after = write second ++ after' → first = second ∧ after = after'

theorem append_inj_of_stops {text text' : List Char} (htext : ∀ c ∈ text, inside c = true)
    (htext' : ∀ c ∈ text', inside c = true) (hafter : Stops inside after)
    (hafter' : Stops inside after') (h : text ++ after = text' ++ after') :
    text = text' ∧ after = after' := by
  have hsame : text = text' := by
    have htake := congrArg (List.takeWhile inside) h
    rwa [List.takeWhile_append_of_pos htext, List.takeWhile_append_of_pos htext', hafter, hafter',
      List.append_nil, List.append_nil] at htake
  rw [hsame] at h
  exact ⟨hsame, List.append_cancel_left h⟩

theorem TellsApart.prepend (h : TellsApart write inside first second) (before : List Char) :
    TellsApart (before ++ write ·) inside first second := by
  intro after after' hafter hafter' heq
  rw [List.append_assoc, List.append_assoc] at heq
  exact h hafter hafter' (List.append_cancel_left heq)

/-! ## Sequences -/

/-- The text begins, and not with the closing mark. -/
def Unclosed (closing : Char) (text : List Char) : Prop := ∃ c rest, text = c :: rest ∧ c ≠ closing

theorem Unclosed.ne_closing {text : List Char} (h : Unclosed closing text) :
    closing :: after ≠ text ++ after' := by
  obtain ⟨c, rest, rfl, hne⟩ := h
  intro heq
  exact hne (List.cons.inj heq).1.symm

/-- The text is neither the end of a sequence nor a continuation of the part before it. -/
structure Separates (inside : Char → Bool) (closing : Char) (text : List Char) : Prop where
  unclosed : Unclosed closing text
  stops : Stops inside text

theorem Separates.stops_append {text : List Char} (h : Separates inside closing text)
    (after : List Char) : Stops inside (text ++ after) := by
  obtain ⟨⟨c, rest, rfl, -⟩, hstops⟩ := h
  unfold Stops at hstops ⊢
  rw [List.takeWhile_eq_nil_iff] at hstops ⊢
  exact fun _ => hstops (Nat.zero_lt_succ _)

theorem stops_flatMap (hclosing : inside closing = false)
    (h : ∀ part ∈ firsts, Separates inside closing (write part)) :
    Stops inside (firsts.flatMap write ++ closing :: after) := by
  cases firsts with
  | nil => exact stops_cons hclosing
  | cons part parts =>
    rw [List.flatMap_cons, List.append_assoc]
    exact (h part List.mem_cons_self).stops_append _

/-- The parts of a sequence are found one after the other, up to the mark that begins none. -/
theorem flatMap_inj_of_tellsApart (hclosing : inside closing = false)
    (hfirsts : ∀ part ∈ firsts, Separates inside closing (write part))
    (hseconds : ∀ part ∈ seconds, Separates inside closing (write part))
    (hapart : ∀ first ∈ firsts, ∀ second ∈ seconds, TellsApart write inside first second)
    (h : firsts.flatMap write ++ closing :: after = seconds.flatMap write ++ closing :: after') :
    firsts = seconds ∧ after = after' := by
  -- where one sequence ends and the other goes on, a part would begin with the closing mark
  induction firsts generalizing seconds with
  | nil =>
    cases seconds with
    | nil => exact ⟨rfl, (List.cons.inj h).2⟩
    | cons second seconds =>
      rw [List.flatMap_cons, List.append_assoc] at h
      exact absurd h (hseconds second List.mem_cons_self).unclosed.ne_closing
  | cons first firsts ih =>
    cases seconds with
    | nil =>
      rw [List.flatMap_cons, List.append_assoc] at h
      exact absurd h.symm (hfirsts first List.mem_cons_self).unclosed.ne_closing
    | cons second seconds =>
      rw [List.forall_mem_cons] at hfirsts hseconds
      rw [List.flatMap_cons, List.flatMap_cons, List.append_assoc, List.append_assoc] at h
      obtain ⟨rfl, hrest⟩ := hapart first List.mem_cons_self second List.mem_cons_self
        (stops_flatMap hclosing hfirsts.2) (stops_flatMap hclosing hseconds.2) h
      obtain ⟨rfl, hafter⟩ := ih hfirsts.2 hseconds.2 (fun first hf second hs =>
        hapart first (List.mem_cons_of_mem _ hf) second (List.mem_cons_of_mem _ hs)) hrest
      exact ⟨rfl, hafter⟩

/-- The parts between brackets, with a comma and a blank between each and the next. -/
def bracketed (opening closing : Char) (write : α → List Char) : List α → List Char
  | [] => [opening, closing]
  | part :: parts => opening :: write part ++ parts.flatMap ([',', ' '] ++ write ·) ++ [closing]

theorem bracketed_cons_append (opening closing : Char) (write : α → List Char) (part : α)
    (parts : List α) (after : List Char) :
    bracketed opening closing write (part :: parts) ++ after =
      opening :: (write part ++ (parts.flatMap ([',', ' '] ++ write ·) ++ closing :: after)) := by
  simp [bracketed]

/-- Parts between brackets are found again if none of them begins with the closing one. -/
theorem tellsApart_bracketed {opening : Char} (hcomma : inside ',' = false)
    (hclosing : inside closing = false) (hne : ',' ≠ closing)
    (hfirsts : ∀ part ∈ firsts, Unclosed closing (write part))
    (hseconds : ∀ part ∈ seconds, Unclosed closing (write part))
    (hapart : ∀ first ∈ firsts, ∀ second ∈ seconds, TellsApart write inside first second) :
    TellsApart (bracketed opening closing write) inside firsts seconds := by
  have hfollows : ∀ part : α, Separates inside closing ([',', ' '] ++ write part) :=
    fun part => ⟨⟨',', _, rfl, hne⟩, stops_cons hcomma⟩
  intro after after' _ _ h
  cases firsts with
  | nil =>
    cases seconds with
    | nil => exact ⟨rfl, List.append_cancel_left h⟩
    | cons second seconds =>
      rw [bracketed_cons_append] at h
      -- a part would have to begin where the other text closes
      exact absurd (List.cons.inj h).2 (hseconds second List.mem_cons_self).ne_closing
  | cons first firsts =>
    cases seconds with
    | nil =>
      rw [bracketed_cons_append] at h
      exact absurd (List.cons.inj h).2.symm (hfirsts first List.mem_cons_self).ne_closing
    | cons second seconds =>
      rw [bracketed_cons_append, bracketed_cons_append] at h
      obtain ⟨rfl, hrest⟩ := hapart first List.mem_cons_self second List.mem_cons_self
        (stops_flatMap hclosing fun part _ => hfollows part)
        (stops_flatMap hclosing fun part _ => hfollows part) (List.cons.inj h).2
      obtain ⟨rfl, hafter⟩ := flatMap_inj_of_tellsApart hclosing (fun part _ => hfollows part)
        (fun part _ => hfollows part) (fun first hf second hs =>
          (hapart first (List.mem_cons_of_mem _ hf) second (List.mem_cons_of_mem _ hs)).prepend
            [',', ' ']) hrest
      exact ⟨rfl, hafter⟩

/-! ## Quoted strings -/

/-- The characters that have an escape of two characters, with the second one of it. -/
def shortEscapes : List (Char × Char) :=
  [('"', '"'), ('\\', '\\'), ('\n', 'n'), ('\r', 'r'), ('\t', 't'), ('\x00', '0')]

/-- The ways in which a character may stand inside a quoted string. -/
inductive StandsAs (c : Char) : List Char → Prop
  | itself : c ≠ '"' → c ≠ '\\' → StandsAs c [c]
  | escaped {mark : Char} : (c, mark) ∈ shortEscapes → StandsAs c ['\\', mark]
  | numbered : StandsAs c (codePointEscape c)

theorem standsAs_quotedChar (c : Char) : StandsAs c (quotedChar c) := by
  unfold quotedChar
  split_ifs with hquote hbackslash hfeed hreturn htab hzero
  · exact .escaped (by rw [hquote]; decide)
  · exact .escaped (by rw [hbackslash]; decide)
  · exact .escaped (by rw [hfeed]; decide)
  · exact .escaped (by rw [hreturn]; decide)
  · exact .escaped (by rw [htab]; decide)
  · have hc : c = '\x00' := Char.toNat_inj.1 hzero
    exact .escaped (by rw [hc]; decide)
  · exact .itself hquote hbackslash
  · exact .numbered
  · exact .itself hquote hbackslash
  · exact .numbered

theorem StandsAs.separates {c : Char} {text : List Char} (h : StandsAs c text) :
    Separates (fun _ => false) '"' text := by
  cases h with
  | itself hquote _ => exact ⟨⟨c, [], rfl, hquote⟩, rfl⟩
  | escaped _ => exact ⟨⟨'\\', _, rfl, by decide⟩, rfl⟩
  | numbered => exact ⟨⟨'\\', _, rfl, by decide⟩, rfl⟩

theorem codePointEscape_append_inj {c d : Char}
    (h : codePointEscape c ++ after = codePointEscape d ++ after') : c = d ∧ after = after' := by
  have hdigits : ∀ n : Nat, ∀ digit ∈ hexText n, (digit != '}') = true := by
    refine fun n => forall_mem_toDigits (fun d => ?_) (by decide) n
    exact bne_iff_ne.2 (Nat.digitChar_ne '}' (by decide))
  have hstops : ∀ rest, Stops (· != '}') ('}' :: rest) := fun rest => stops_cons rfl
  have hbehind : hexText c.toNat ++ '}' :: after = hexText d.toNat ++ '}' :: after' := by
    simpa [codePointEscape] using h
  obtain ⟨htext, hafter⟩ := append_inj_of_stops (hdigits _) (hdigits _) (hstops _) (hstops _)
    hbehind
  exact ⟨Char.toNat_inj.1 (toDigits_inj (by decide) (by decide) htext), (List.cons.inj hafter).2⟩

theorem StandsAs.append_inj {c d : Char} {text text' : List Char} (hc : StandsAs c text)
    (hd : StandsAs d text') (h : text ++ after = text' ++ after') : c = d ∧ after = after' := by
  -- the marks differ, and none of them is the one before a code point
  have hmarks : ∀ first ∈ shortEscapes, ∀ second ∈ shortEscapes, first.2 = second.2 →
      first.1 = second.1 := by decide
  have hnumber : ∀ escape ∈ shortEscapes, escape.2 ≠ 'u' := by decide
  cases hc with
  | itself _ hbackslash =>
    cases hd with
    | itself _ _ => exact List.cons.inj h
    | escaped _ => exact absurd (List.cons.inj h).1 hbackslash
    | numbered => exact absurd (List.cons.inj h).1 hbackslash
  | escaped hmark =>
    cases hd with
    | itself _ hbackslash => exact absurd (List.cons.inj h).1.symm hbackslash
    | escaped hmark' =>
      obtain ⟨hsame, hafter⟩ := List.cons.inj (List.cons.inj h).2
      exact ⟨hmarks _ hmark _ hmark' hsame, hafter⟩
    | numbered => exact absurd (List.cons.inj (List.cons.inj h).2).1 (hnumber _ hmark)
  | numbered =>
    cases hd with
    | itself _ hbackslash => exact absurd (List.cons.inj h).1.symm hbackslash
    | escaped hmark' => exact absurd (List.cons.inj (List.cons.inj h).2).1.symm (hnumber _ hmark')
    | numbered => exact codePointEscape_append_inj h

/-- A quoted string is found again, whatever stands in it and behind it. -/
theorem quoted_append_inj {s t : String} (h : quoted s ++ after = quoted t ++ after') :
    s = t ∧ after = after' := by
  have hinside : s.toList.flatMap quotedChar ++ '"' :: after
      = t.toList.flatMap quotedChar ++ '"' :: after' := by
    simpa [quoted] using h
  obtain ⟨htext, hafter⟩ := flatMap_inj_of_tellsApart rfl
    (fun c _ => (standsAs_quotedChar c).separates) (fun c _ => (standsAs_quotedChar c).separates)
    (fun c _ d _ _ _ _ _ => (standsAs_quotedChar c).append_inj (standsAs_quotedChar d)) hinside
  exact ⟨String.toList_inj.1 htext, hafter⟩

end HttpTest.Text
