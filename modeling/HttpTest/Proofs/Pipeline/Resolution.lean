import HttpTest.Proofs.Pipeline.Order
import HttpTest.Proofs.Pipeline.Survivors

/-!
# What a list of steps resolves to

The steps of a run are described by their positions: the first usage error in the list, or the
positions of the steps that no later clear step addresses, ordered by phase and position.
-/

namespace HttpTest.Pipeline

/-! ## Usage errors -/

theorem usageMessage?_eq_some_iff {step : Step} {message : String} :
    step.usageMessage? = some message ↔ step.action = .fail message := by
  unfold Step.usageMessage?
  split
  next other h => rw [h]; simp only [Option.some.injEq, Action.fail.injEq]
  next h => exact ⟨nofun, fun hfail => absurd hfail (h message)⟩

/-- Either no step is a usage error, or there is a first one, which is the one reported. -/
theorem usageError?_cases (steps : List Step) :
    (usageError? steps = none ∧ ∀ step ∈ steps, ∀ message, step.action ≠ .fail message) ∨
    ∃ before step after message, steps = before ++ step :: after ∧
      step.action = .fail message ∧ (∀ earlier ∈ before, ∀ other, earlier.action ≠ .fail other) ∧
      usageError? steps = some (step, .usage message) := by
  cases herror : usageError? steps with
  | none =>
    refine .inl ⟨rfl, fun step hstep message hfail => ?_⟩
    have hnone := List.findSome?_eq_none_iff.1 herror step hstep
    rw [usageMessage?_eq_some_iff.2 hfail] at hnone
    cases hnone
  | some error =>
    obtain ⟨before, step, after, rfl, hstep, hbefore⟩ := List.findSome?_eq_some_iff.1 herror
    obtain ⟨message, hmessage, rfl⟩ := Option.map_eq_some_iff.1 hstep
    refine .inr ⟨before, step, after, message, rfl, usageMessage?_eq_some_iff.1 hmessage, ?_, rfl⟩
    intro earlier hearlier other hfail
    have hnone := hbefore earlier hearlier
    rw [usageMessage?_eq_some_iff.2 hfail] at hnone
    cases hnone

theorem usageError?_eq_none {steps : List Step}
    (h : ∀ step ∈ steps, ∀ message, step.action ≠ .fail message) : usageError? steps = none := by
  rcases usageError?_cases steps with ⟨hnone, _⟩ | ⟨_, step, _, message, rfl, hfail, _⟩
  · exact hnone
  · exact absurd hfail (h step (List.mem_append_right _ List.mem_cons_self) message)

theorem ne_fail_of_usageError?_eq_none {steps : List Step} (h : usageError? steps = none) :
    ∀ step ∈ steps, ∀ message, step.action ≠ .fail message := by
  rcases usageError?_cases steps with ⟨_, hsteps⟩ | ⟨_, _, _, _, _, _, _, herror⟩
  · exact hsteps
  · rw [h] at herror
    cases herror

theorem resolve_of_usageError?_eq_none {steps : List Step} (h : usageError? steps = none) :
    resolve steps = .ok (inPhaseOrder (survivors steps)) := by
  rw [resolve, h]

/-! ## The positions of the survivors -/

/-- The step at a position is one to run, and no clear step behind it addresses its path. -/
def Survives (steps : List Step) (i : Fin steps.length) : Prop :=
  (∃ effect, (steps.get i).action = .run effect) ∧
    ∀ j, i < j → ∀ pattern path, (steps.get j).action = .clear pattern →
      (steps.get i).path = some path → pattern.clears path = false

/-- `Survives` as it is computed, for lists without usage errors. -/
def isKept (steps : List Step) (i : Fin steps.length) : Bool :=
  !(steps.get i).isClear && !isClearedLater (steps.drop (i + 1)) (steps.get i)

/-- The survivors are the steps at the positions that are kept. -/
theorem survivors_eq_map_get (steps : List Step) :
    survivors steps = ((List.finRange steps.length).filter (isKept steps)).map steps.get := by
  induction steps with
  | nil => rfl
  | cons step steps ih =>
    -- position 0 is decided by the step and all others; behind it each position keeps its answer
    have hzero : isKept (step :: steps) 0 = !(step.isClear || isClearedLater steps step) :=
      (Bool.not_or _ _).symm
    have hsucc : isKept (step :: steps) ∘ Fin.succ = isKept steps := rfl
    have hget : (step :: steps).get ∘ Fin.succ = steps.get := rfl
    have hrest : (((List.finRange steps.length).map Fin.succ).filter (isKept (step :: steps))).map
        (step :: steps).get = survivors steps := by
      rw [List.filter_map, hsucc, List.map_map, hget, ih]
    have hrange : List.finRange (step :: steps).length
        = 0 :: (List.finRange steps.length).map Fin.succ := List.finRange_succ
    rw [survivors_cons, hrange, List.filter_cons, hzero]
    cases step.isClear || isClearedLater steps step with
    | true => exact hrest.symm
    | false => exact congrArg (step :: ·) hrest.symm

theorem isClearedLater_iff {later : List Step} {step : Step} :
    isClearedLater later step = true ↔
      ∃ other ∈ later, ∃ pattern path, other.action = .clear pattern ∧ step.path = some path ∧
        pattern.clears path = true := by
  simp only [isClearedLater, List.any_eq_true, Option.any_eq_true, Step.isClearedBy]
  refine exists_congr fun other => and_congr_right fun _ => ?_
  constructor
  · rintro ⟨pattern, hpattern, path, hpath, hclears⟩
    unfold Step.clearPattern? at hpattern
    split at hpattern
    next other' haction =>
      cases hpattern
      exact ⟨pattern, path, haction, hpath, hclears⟩
    next => cases hpattern
  · rintro ⟨pattern, path, haction, hpath, hclears⟩
    exact ⟨pattern, clearPattern?_of_clear haction, path, hpath, hclears⟩

theorem isClear_eq_false_iff {step : Step} (h : ∀ message, step.action ≠ .fail message) :
    step.isClear = false ↔ ∃ effect, step.action = .run effect := by
  unfold Step.isClear
  cases haction : step.action with
  | run effect => exact ⟨fun _ => ⟨effect, rfl⟩, fun _ => rfl⟩
  | clear pattern => exact ⟨nofun, nofun⟩
  | fail message => exact absurd haction (h message)

theorem resolve_of_effects {steps : List Step}
    (h : ∀ step ∈ steps, ∃ effect, step.action = .run effect) :
    resolve steps = .ok (inPhaseOrder steps) := by
  have hrun : ∀ step ∈ steps, ∀ message, step.action ≠ .fail message := by
    intro step hstep message hfail
    obtain ⟨effect, heffect⟩ := h step hstep
    cases heffect.symm.trans hfail
  have hkept : survivors steps = steps :=
    survivors_of_not_clear fun step hstep =>
      (isClear_eq_false_iff (hrun step hstep)).2 (h step hstep)
  rw [resolve_of_usageError?_eq_none (usageError?_eq_none hrun), hkept]

theorem isKept_iff_survives {steps : List Step}
    (h : ∀ step ∈ steps, ∀ message, step.action ≠ .fail message) (i : Fin steps.length) :
    isKept steps i = true ↔ Survives steps i := by
  have hclear := isClear_eq_false_iff (h (steps.get i) (List.get_mem steps i))
  unfold isKept Survives
  rw [Bool.and_eq_true, Bool.not_eq_true', Bool.not_eq_true', hclear]
  refine and_congr_right fun _ => ?_
  rw [← Bool.not_eq_true, isClearedLater_iff]
  -- the positions behind `i` are those of the steps that `drop (i + 1)` leaves
  constructor
  · intro hnone j hlt pattern path haction hpath
    rw [← Bool.not_eq_true]
    intro hclears
    refine hnone ⟨steps.get j, ?_, pattern, path, haction, hpath, hclears⟩
    exact List.mem_drop_iff_getElem.2 ⟨j - (i + 1), by omega, by
      simp only [List.get_eq_getElem]; congr 1; omega⟩
  · rintro hall ⟨other, hother, pattern, path, haction, hpath, hclears⟩
    obtain ⟨k, hk, rfl⟩ := List.mem_drop_iff_getElem.1 hother
    have hfalse := hall ⟨i + 1 + k, by omega⟩ (Fin.lt_def.2 (by show i.val < i.val + 1 + k; omega))
      pattern path haction hpath
    rw [hclears] at hfalse
    cases hfalse

/-! ## The effect of one clear step -/

/-- The steps without those that a pattern addresses. Clear steps stay, no pattern removes them. -/
def unaddressed (pattern : Path) (steps : List Step) : List Step :=
  steps.filter fun step => step.isClear || !step.isClearedBy pattern

theorem unaddressed_cons_of_clear {step : Step} (h : step.isClear = true) (pattern : Path)
    (steps : List Step) :
    unaddressed pattern (step :: steps) = step :: unaddressed pattern steps := by
  rw [unaddressed, List.filter_cons, h, Bool.true_or, if_pos rfl]
  rfl

theorem unaddressed_cons_of_not_clear {step : Step} (h : step.isClear = false) (pattern : Path)
    (steps : List Step) :
    unaddressed pattern (step :: steps) =
      if step.isClearedBy pattern then unaddressed pattern steps
      else step :: unaddressed pattern steps := by
  rw [unaddressed, List.filter_cons, h, Bool.false_or]
  cases step.isClearedBy pattern <;> rfl

/-- All clear steps are still there, so they address what they did. -/
theorem isClearedLater_unaddressed (pattern : Path) (later : List Step) (step : Step) :
    isClearedLater (unaddressed pattern later) step = isClearedLater later step := by
  induction later with
  | nil => rfl
  | cons other later ih =>
    cases hother : other.isClear with
    | true => rw [unaddressed_cons_of_clear hother, isClearedLater_cons, isClearedLater_cons, ih]
    | false =>
      rw [unaddressed_cons_of_not_clear hother, isClearedLater_cons,
        clearPattern?_of_not_clear hother, Option.any_none, Bool.false_or]
      split
      · exact ih
      · rw [isClearedLater_cons, clearPattern?_of_not_clear hother, Option.any_none,
          Bool.false_or, ih]

theorem survivors_cons_of_clear {step : Step} (h : step.isClear = true) (steps : List Step) :
    survivors (step :: steps) = survivors steps := by
  rw [survivors_cons, h, Bool.true_or, if_pos rfl]

/-- Removing what a pattern addresses can be done before or after the clear steps take effect. -/
theorem survivors_unaddressed (pattern : Path) (steps : List Step) :
    survivors (unaddressed pattern steps)
      = (survivors steps).filter (!·.isClearedBy pattern) := by
  induction steps with
  | nil => rfl
  | cons step steps ih =>
    cases hstep : step.isClear with
    | true =>
      rw [unaddressed_cons_of_clear hstep, survivors_cons_of_clear hstep,
        survivors_cons_of_clear hstep, ih]
    | false =>
      rw [unaddressed_cons_of_not_clear hstep, survivors_cons, hstep, Bool.false_or]
      -- either the pattern or a later clear step may take the step away, in whichever order
      cases hcleared : step.isClearedBy pattern <;> cases hlater : isClearedLater steps step <;>
        simp only [hstep, hcleared, hlater, survivors_cons, isClearedLater_unaddressed,
          List.filter_cons, ih, Bool.or_self, Bool.or_true, Bool.not_true, Bool.not_false,
          Bool.false_eq_true, if_true, if_false]

/-- A clear step does to the survivors what removing the steps it addresses from those before it
does, whatever the other clear steps are. -/
theorem survivors_clear {clear : Step} {pattern : Path} (h : clear.action = .clear pattern)
    (before after : List Step) :
    survivors (before ++ clear :: after) = survivors (unaddressed pattern before ++ after) := by
  have hclear : clear.isClear = true := by rw [Step.isClear, h]
  rw [survivors_append, survivors_append, survivors_cons_of_clear hclear, survivors_unaddressed,
    List.filter_filter]
  congr 1
  apply List.filter_congr
  intro step _
  rw [isClearedLater_cons, clearPattern?_of_clear h, Option.any_some, Bool.not_or, Bool.and_comm]

/-- A step that a later clear step addresses might as well not have been declared. -/
theorem survivors_of_addressed {step clear : Step} {pattern : Path}
    (hstep : step.isClear = false) (hcleared : step.isClearedBy pattern = true)
    (hclear : clear.action = .clear pattern) (before middle after : List Step) :
    survivors (before ++ step :: (middle ++ clear :: after))
      = survivors (before ++ (middle ++ clear :: after)) := by
  have hdrop : unaddressed pattern (before ++ step :: middle)
      = unaddressed pattern (before ++ middle) := by
    simp only [unaddressed, List.filter_append, List.filter_cons, hstep, hcleared, Bool.not_true,
      Bool.or_self, Bool.false_eq_true, if_false]
  calc survivors (before ++ step :: (middle ++ clear :: after))
      = survivors ((before ++ step :: middle) ++ clear :: after) := by simp
    _ = survivors ((before ++ middle) ++ clear :: after) := by
        rw [survivors_clear hclear, survivors_clear hclear, hdrop]
    _ = _ := by rw [List.append_assoc]

/-! ## The resolution of a list -/

/-- Resolving a list of steps gives its first usage error, if it has one. Else it gives the steps
at the positions that survive, each once, ordered by phase and position; they are steps to run, and
each clear step does no more than remove what it addresses from the steps before it. -/
theorem resolve_eq_first_usageError_or_survivors (steps : List Step) :
    (∃ i message, (steps.get i).action = .fail message ∧
      (∀ j < i, ∀ other, (steps.get j).action ≠ .fail other) ∧
      resolve steps = .error (steps.get i, .usage message)) ∨
    ((∀ i message, (steps.get i).action ≠ .fail message) ∧
      (∃ order : List (Fin steps.length),
        (∀ i, i ∈ order ↔ Survives steps i) ∧
        (order.Pairwise fun i j =>
          toLex ((steps.get i).phase, i) < toLex ((steps.get j).phase, j)) ∧
        resolve steps = .ok (order.map steps.get) ∧
        ∀ step ∈ order.map steps.get, ∃ effect, step.action = .run effect) ∧
      ∀ before clear after pattern, steps = before ++ clear :: after →
        clear.action = .clear pattern →
          resolve steps = resolve (unaddressed pattern before ++ after)) := by
  rcases usageError?_cases steps with
    ⟨hnone, hrun⟩ | ⟨before, step, after, message, rfl, hfail, hbefore, herror⟩
  · have hget : ∀ i message, (steps.get i).action ≠ .fail message := fun i =>
      hrun (steps.get i) (List.get_mem steps i)
    refine .inr ⟨hget, ?_, ?_⟩
    · -- the kept positions ascend; the sort by phase only has to put them in order
      let kept := (List.finRange steps.length).filter (isKept steps)
      have hmem : ∀ i, i ∈ positionsInPhaseOrder steps.get kept ↔ Survives steps i := by
        intro i
        rw [mem_positionsInPhaseOrder, List.mem_filter, isKept_iff_survives hrun]
        exact and_iff_right (List.mem_finRange i)
      refine ⟨positionsInPhaseOrder steps.get kept, hmem, ?_, ?_, ?_⟩
      · exact pairwise_positionsInPhaseOrder steps.get
          ((List.pairwise_lt_finRange _).filter _)
      · rw [resolve_of_usageError?_eq_none hnone, survivors_eq_map_get, inPhaseOrder_map]
      · intro step hstep
        obtain ⟨i, hi, rfl⟩ := List.mem_map.1 hstep
        exact ((hmem i).1 hi).1
    · rintro before clear after pattern rfl hclear
      -- without the clear step and what it addresses there is still no usage error
      have hother : usageError? (unaddressed pattern before ++ after) = none := by
        apply usageError?_eq_none
        intro step hstep
        apply hrun step
        rcases List.mem_append.1 hstep with hin | hin
        · exact List.mem_append_left _ ((List.mem_filter.1 hin).1)
        · exact List.mem_append_right _ (List.mem_cons_of_mem _ hin)
      rw [resolve_of_usageError?_eq_none hnone, resolve_of_usageError?_eq_none hother,
        survivors_clear hclear]
  · refine .inl ⟨⟨before.length, by simp⟩, message, ?_, ?_, ?_⟩
    · simpa using hfail
    · intro j hj other
      have hlt : j.val < before.length := hj
      have hj : (before ++ step :: after).get j = before[j.val] := by
        simp [List.getElem_append_left hlt]
      rw [hj]
      exact hbefore _ (List.getElem_mem hlt) other
    · rw [resolve, herror]
      simp

end HttpTest.Pipeline
