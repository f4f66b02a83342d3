import HttpTest.Proofs.Pipeline.Resolution
import HttpTest.Scenario.Suite

/-!
# The exchange of a top-level run

A top-level run resolves the same steps as a listing of them, with the exchange behind. No clear
step is declared after the exchange and it has no path, so it survives, and being declared last it
comes last among the steps of its phase: the resolution of the steps is cut in two at one place and
the exchange stands between the parts.
-/

namespace HttpTest.Pipeline

def calls (steps : List Step) : List (Phase × String) :=
  steps.map fun step => (step.phase, step.call)

theorem usageError?_withExchange (steps : List Step) :
    usageError? (withExchange steps) = usageError? steps := by
  unfold usageError? withExchange
  rw [List.findSome?_append]
  exact Option.or_none

theorem survivors_withExchange (steps : List Step) :
    survivors (withExchange steps) = survivors steps ++ [.exchange] := by
  unfold survivors withExchange
  rw [List.foldl_append]
  rfl

/-! ## The two parts of a resolution -/

def phasesUpToExchange : List Phase := [.clean, .setup, .send, .exchange]

def phasesAfterExchange : List Phase := [.expect, .cleanup]

/-- The steps of some phases, in the order of the phases. -/
def ofPhases (phases : List Phase) (steps : List Step) : List Step :=
  phases.flatMap fun phase => steps.filter (·.phase = phase)

theorem phase_mem_of_mem_ofPhases {phases : List Phase} {steps : List Step} {step : Step}
    (h : step ∈ ofPhases phases steps) : step.phase ∈ phases := by
  obtain ⟨phase, hphase, hstep⟩ := List.mem_flatMap.1 h
  rw [of_decide_eq_true (List.mem_filter.1 hstep).2]
  exact hphase

theorem inPhaseOrder_eq_append (steps : List Step) :
    inPhaseOrder steps
      = ofPhases phasesUpToExchange steps ++ ofPhases phasesAfterExchange steps := by
  have hall : Phase.all = phasesUpToExchange ++ phasesAfterExchange := rfl
  rw [inPhaseOrder, hall, List.flatMap_append]
  rfl

theorem ofPhases_append_of_not_mem {phases : List Phase} {step : Step} (h : step.phase ∉ phases)
    (steps : List Step) : ofPhases phases (steps ++ [step]) = ofPhases phases steps := by
  unfold ofPhases
  rw [List.flatMap_def, List.flatMap_def]
  congr 1
  apply List.map_congr_left
  intro phase hphase
  have hne : decide (step.phase = phase) = false := by
    rw [decide_eq_false_iff_not]
    rintro rfl
    exact h hphase
  rw [List.filter_append, List.filter_cons, hne, if_neg Bool.false_ne_true, List.filter_nil,
    List.append_nil]

theorem ofPhases_append_of_last {phases : List Phase} {step : Step} (h : step.phase ∉ phases)
    (steps : List Step) :
    ofPhases (phases ++ [step.phase]) (steps ++ [step])
      = ofPhases (phases ++ [step.phase]) steps ++ [step] := by
  have hsplit : ∀ list : List Step, ofPhases (phases ++ [step.phase]) list
      = ofPhases phases list ++ list.filter (·.phase = step.phase) := by
    intro list
    rw [ofPhases, List.flatMap_append, List.flatMap_singleton]
    rfl
  have hself : decide (step.phase = step.phase) = true := decide_eq_true rfl
  rw [hsplit, hsplit, ofPhases_append_of_not_mem h, List.filter_append, List.filter_cons, hself,
    if_pos rfl, List.filter_nil, List.append_assoc]

/-- The exchange, declared last, stands between the two parts. -/
theorem inPhaseOrder_append_exchange (steps : List Step) :
    inPhaseOrder (steps ++ [.exchange])
      = ofPhases phasesUpToExchange steps
        ++ .exchange :: ofPhases phasesAfterExchange steps := by
  -- it is the last of its phase among the phases up to it, and does not show in the others
  have hearlier : Step.exchange.phase ∉ [Phase.clean, .setup, .send] := by decide
  have hbefore : ofPhases phasesUpToExchange (steps ++ [.exchange])
      = ofPhases phasesUpToExchange steps ++ [.exchange] :=
    ofPhases_append_of_last hearlier steps
  have hlater : Step.exchange.phase ∉ phasesAfterExchange := by decide
  have hafter : ofPhases phasesAfterExchange (steps ++ [.exchange])
      = ofPhases phasesAfterExchange steps :=
    ofPhases_append_of_not_mem hlater steps
  rw [inPhaseOrder_eq_append, hbefore, hafter, List.append_assoc, List.singleton_append]

/-! ## What is listed and what is run -/

/-- What is listed for some steps is what a top-level run of them does. Either both report the same
usage error, or the run executes the listed steps with one exchange in between, behind the steps of
the phases up to the exchange and before those of the phases after it. -/
theorem resolvedCalls_eq_calls_of_topLevel (steps : List Step) :
    (∃ step fault,
      resolve steps = .error (step, fault) ∧
      resolve (withExchange steps) = .error (step, fault) ∧
      resolvedCalls steps = .error (.unusable step fault) ∧
      ∀ context, Run.topLevel steps context
        = .ok (.error (context.failure step.call fault)) context) ∨
    ∃ before after,
      resolve steps = .ok (before ++ after) ∧
      resolve (withExchange steps) = .ok (before ++ .exchange :: after) ∧
      (∀ step ∈ before, step.phase ∈ [.clean, .setup, .send, .exchange]) ∧
      (∀ step ∈ after, step.phase ∈ [.expect, .cleanup]) ∧
      resolvedCalls steps = .ok (calls before ++ calls after) ∧
      calls (before ++ .exchange :: after)
        = calls before ++ (.exchange, "exchange()") :: calls after ∧
      ∀ context, Run.topLevel steps context = execute (before ++ .exchange :: after) context := by
  cases herror : usageError? steps with
  | some error =>
    obtain ⟨step, fault⟩ := error
    have hlist : resolve steps = .error (step, fault) := by rw [resolve, herror]
    have hrun : resolve (withExchange steps) = .error (step, fault) := by
      rw [resolve, usageError?_withExchange, herror]
    refine .inl ⟨step, fault, hlist, hrun, ?_, fun context => ?_⟩
    · rw [resolvedCalls, hlist]
    · rw [Run.topLevel, run, hrun]
      rfl
  | none =>
    let before := ofPhases phasesUpToExchange (survivors steps)
    let after := ofPhases phasesAfterExchange (survivors steps)
    have hlist : resolve steps = .ok (before ++ after) := by
      rw [resolve_of_usageError?_eq_none herror, inPhaseOrder_eq_append]
    have hrun : resolve (withExchange steps) = .ok (before ++ .exchange :: after) := by
      rw [← usageError?_withExchange] at herror
      rw [resolve_of_usageError?_eq_none herror, survivors_withExchange,
        inPhaseOrder_append_exchange]
    refine .inr ⟨before, after, hlist, hrun, fun _ => phase_mem_of_mem_ofPhases,
      fun _ => phase_mem_of_mem_ofPhases, ?_, ?_, fun context => ?_⟩
    · rw [resolvedCalls, hlist]
      show Except.ok (calls (before ++ after)) = _
      rw [calls, List.map_append]
      rfl
    · rw [calls, List.map_append, List.map_cons]
      rfl
    · rw [Run.topLevel, run, hrun]

end HttpTest.Pipeline
