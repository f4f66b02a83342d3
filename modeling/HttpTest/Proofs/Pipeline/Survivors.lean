import HttpTest.Run.Pipeline

/-!
# What clear steps leave

Declaring steps one after the other keeps a list in which every clear step has removed what it
addresses so far. `foldl_declare` says what becomes of any list that is declared further: each of
its steps stays exactly if no later clear step addresses it, whatever the others do. From it come
`survivors_cons`, which computes the survivors from the front, and `survivors_append`.
-/

namespace HttpTest.Pipeline

/-- Whether one of some later steps is a clear step that addresses a step. -/
def isClearedLater (later : List Step) (step : Step) : Bool :=
  later.any fun other => other.clearPattern?.any step.isClearedBy

theorem isClearedLater_cons (step other : Step) (later : List Step) :
    isClearedLater (other :: later) step
      = (other.clearPattern?.any step.isClearedBy || isClearedLater later step) := rfl

theorem declare_of_clear {step : Step} {pattern : Path} (h : step.action = .clear pattern)
    (before : List Step) : declare before step = before.filter (!·.isClearedBy pattern) := by
  simp only [declare, h]

theorem declare_of_not_clear {step : Step} (h : step.isClear = false) (before : List Step) :
    declare before step = before ++ [step] := by
  unfold declare Step.isClear at *
  split <;> simp_all only [Bool.true_eq_false]

theorem clearPattern?_of_clear {step : Step} {pattern : Path} (h : step.action = .clear pattern) :
    step.clearPattern? = some pattern := by
  simp only [Step.clearPattern?, h]

theorem clearPattern?_of_not_clear {step : Step} (h : step.isClear = false) :
    step.clearPattern? = none := by
  unfold Step.clearPattern? Step.isClear at *
  split <;> simp_all only [Bool.true_eq_false]

theorem exists_clear_of_isClear {step : Step} (h : step.isClear = true) :
    ∃ pattern, step.action = .clear pattern := by
  unfold Step.isClear at h
  split at h
  next pattern hpattern => exact ⟨pattern, hpattern⟩
  next => cases h

/-- What becomes of declared steps when more are declared: they stay unless a later clear step
addresses them, and the survivors of the later steps follow. -/
theorem foldl_declare (steps before : List Step) :
    steps.foldl declare before
      = before.filter (!isClearedLater steps ·) ++ survivors steps := by
  -- the survivors of a non-empty list start from its first step, so the list before is general
  induction steps generalizing before with
  | nil =>
    show before = before.filter (fun _ => true) ++ []
    rw [List.append_nil, List.filter_eq_self.2 fun _ _ => rfl]
  | cons step steps ih =>
    have hsurvivors : survivors (step :: steps) = steps.foldl declare (declare [] step) := rfl
    rw [hsurvivors, List.foldl_cons, ih, ih (declare [] step)]
    cases hclear : step.isClear with
    | true =>
      obtain ⟨pattern, hpattern⟩ := exists_clear_of_isClear hclear
      simp only [declare_of_clear hpattern, clearPattern?_of_clear hpattern, List.filter_nil,
        List.nil_append, List.filter_filter, isClearedLater_cons, Option.any_some, Bool.not_or,
        Bool.and_comm]
    | false =>
      simp only [declare_of_not_clear hclear, clearPattern?_of_not_clear hclear,
        List.filter_append, List.nil_append, List.append_assoc, isClearedLater_cons,
        Option.any_none, Bool.false_or]

/-- The survivors of some steps and then more: those of the first that no later step clears, and
those of the later ones. -/
theorem survivors_append (steps later : List Step) :
    survivors (steps ++ later)
      = (survivors steps).filter (!isClearedLater later ·) ++ survivors later := by
  unfold survivors
  rw [List.foldl_append, foldl_declare later]
  rfl

/-- A step survives the ones after it unless it is a clear step or cleared by one of them. -/
theorem survivors_cons (step : Step) (steps : List Step) :
    survivors (step :: steps) =
      if step.isClear || isClearedLater steps step then survivors steps
      else step :: survivors steps := by
  have happend := survivors_append [step] steps
  rw [List.singleton_append] at happend
  rw [happend]
  show (declare [] step).filter _ ++ _ = _
  cases hclear : step.isClear with
  | true =>
    obtain ⟨pattern, hpattern⟩ := exists_clear_of_isClear hclear
    rw [declare_of_clear hpattern]
    rfl
  | false =>
    rw [declare_of_not_clear hclear, List.nil_append]
    cases hlater : isClearedLater steps step <;>
      simp only [List.filter_cons, List.filter_nil, hlater, Bool.not_true, Bool.not_false,
        Bool.or_self, Bool.or_true, Bool.false_eq_true, if_true, if_false, List.nil_append,
        List.singleton_append]

theorem mem_of_mem_survivors {step : Step} {steps : List Step} (h : step ∈ survivors steps) :
    step ∈ steps := by
  induction steps with
  | nil => exact absurd h List.not_mem_nil
  | cons first rest ih =>
    rw [survivors_cons] at h
    split at h
    · exact List.mem_cons_of_mem _ (ih h)
    · rcases List.mem_cons.1 h with rfl | hrest
      · exact List.mem_cons_self
      · exact List.mem_cons_of_mem _ (ih hrest)

theorem isClear_of_mem_survivors {step : Step} {steps : List Step} (h : step ∈ survivors steps) :
    step.isClear = false := by
  induction steps with
  | nil => exact absurd h List.not_mem_nil
  | cons first rest ih =>
    rw [survivors_cons] at h
    split at h
    · exact ih h
    · rename_i hkept
      rcases List.mem_cons.1 h with rfl | hrest
      · exact (Bool.or_eq_false_iff.1 (Bool.not_eq_true _ ▸ hkept)).1
      · exact ih hrest

/-! ## Clear steps between other steps -/

theorem isClearedLater_of_not_clear {later : List Step} (h : ∀ other ∈ later, other.isClear = false)
    (step : Step) : isClearedLater later step = false := by
  refine List.any_eq_false.2 fun other hother => ?_
  rw [clearPattern?_of_not_clear (h other hother)]
  exact Bool.false_ne_true

theorem survivors_of_not_clear {steps : List Step} (h : ∀ step ∈ steps, step.isClear = false) :
    survivors steps = steps := by
  induction steps with
  | nil => rfl
  | cons step steps ih =>
    obtain ⟨hstep, hsteps⟩ := List.forall_mem_cons.1 h
    rw [survivors_cons, hstep, isClearedLater_of_not_clear hsteps, ih hsteps]
    rfl

end HttpTest.Pipeline
