import HttpTest.Run.Pipeline
import Mathlib.Data.Prod.Lex

/-!
# The order of the phases

Phases are ordered as they run, and `inPhaseOrder` is the stable sort by phase: picking steps by
positions, it puts the positions in the lexicographic order of phase and position
(`pairwise_positionsInPhaseOrder`).
-/

namespace HttpTest

namespace Phase

def rank (phase : Phase) : Nat := all.idxOf phase

instance : LT Phase := ⟨fun first second => first.rank < second.rank⟩

instance : LE Phase := ⟨fun first second => first.rank ≤ second.rank⟩

instance (first second : Phase) : Decidable (first < second) :=
  inferInstanceAs (Decidable (first.rank < second.rank))

instance (first second : Phase) : Decidable (first ≤ second) :=
  inferInstanceAs (Decidable (first.rank ≤ second.rank))

theorem pairwise_lt_all : all.Pairwise (· < ·) := by decide

end Phase

namespace Pipeline

/-- Positions of steps by phase; positions of one phase keep their order. -/
def positionsInPhaseOrder {ι : Type} (step : ι → Step) (positions : List ι) : List ι :=
  Phase.all.flatMap fun phase => positions.filter fun i => (step i).phase = phase

theorem inPhaseOrder_singleton (step : Step) : inPhaseOrder [step] = [step] := by
  obtain ⟨phase, path, action⟩ := step
  cases phase <;> rfl

/-- Steps that are picked by positions can be ordered by ordering the positions. -/
theorem inPhaseOrder_map {ι : Type} (step : ι → Step) (positions : List ι) :
    inPhaseOrder (positions.map step) = (positionsInPhaseOrder step positions).map step := by
  unfold inPhaseOrder positionsInPhaseOrder
  rw [List.map_flatMap]
  congr 1
  funext phase
  rw [List.filter_map]
  rfl

@[simp] theorem mem_positionsInPhaseOrder {ι : Type} {step : ι → Step} {positions : List ι}
    {i : ι} : i ∈ positionsInPhaseOrder step positions ↔ i ∈ positions := by
  simp only [positionsInPhaseOrder, List.mem_flatMap, List.mem_filter, decide_eq_true_eq]
  constructor
  · rintro ⟨_, _, hi, _⟩
    exact hi
  · intro hi
    exact ⟨(step i).phase, Phase.mem_all _, hi, rfl⟩

/-- Ascending positions come out in the lexicographic order of phase and position. -/
theorem pairwise_positionsInPhaseOrder {ι : Type} [LT ι] (step : ι → Step) {positions : List ι}
    (h : positions.Pairwise (· < ·)) :
    (positionsInPhaseOrder step positions).Pairwise fun i j =>
      toLex ((step i).phase, i) < toLex ((step j).phase, j) := by
  rw [positionsInPhaseOrder, List.pairwise_flatMap]
  constructor
  · -- positions of one phase keep their order
    intro phase _
    refine (h.filter _).imp_of_mem ?_
    intro i j hi hj hlt
    have hiphase : (step i).phase = phase := of_decide_eq_true (List.mem_filter.1 hi).2
    have hjphase : (step j).phase = phase := of_decide_eq_true (List.mem_filter.1 hj).2
    exact Prod.Lex.toLex_lt_toLex.2 (.inr ⟨hiphase.trans hjphase.symm, hlt⟩)
  · -- those of different phases are in the order of the phases
    refine Phase.pairwise_lt_all.imp ?_
    intro first second hlt i hi j hj
    have hiphase : (step i).phase = first := of_decide_eq_true (List.mem_filter.1 hi).2
    have hjphase : (step j).phase = second := of_decide_eq_true (List.mem_filter.1 hj).2
    refine Prod.Lex.toLex_lt_toLex.2 (.inl ?_)
    show (step i).phase < (step j).phase
    rw [hiphase, hjphase]
    exact hlt

theorem filter_phase_of_forall {steps : List Step} {phase : Phase}
    (h : ∀ step ∈ steps, step.phase = phase) (other : Phase) :
    steps.filter (·.phase = other) = if phase = other then steps else [] := by
  split
  next heq =>
    exact List.filter_eq_self.2 fun step hstep => decide_eq_true ((h step hstep).trans heq)
  next hne =>
    refine List.filter_eq_nil_iff.2 fun step hstep hother => hne ?_
    exact (h step hstep).symm.trans (of_decide_eq_true hother)

/-- Steps that set up a request and build it come before the expectations declared among them. -/
theorem inPhaseOrder_of_request {setup first common second own : List Step}
    (hsetup : ∀ step ∈ setup, step.phase = .setup) (hfirst : ∀ step ∈ first, step.phase = .send)
    (hcommon : ∀ step ∈ common, step.phase = .expect)
    (hsecond : ∀ step ∈ second, step.phase = .send) (hown : ∀ step ∈ own, step.phase = .expect) :
    inPhaseOrder (setup ++ first ++ common ++ (second ++ own))
      = setup ++ first ++ second ++ common ++ own := by
  simp only [inPhaseOrder, Phase.all, List.flatMap_cons, List.flatMap_nil, List.filter_append,
    filter_phase_of_forall hsetup, filter_phase_of_forall hfirst, filter_phase_of_forall hcommon,
    filter_phase_of_forall hsecond, filter_phase_of_forall hown, reduceCtorEq, if_true, if_false,
    List.append_nil, List.nil_append, List.append_assoc]

/-- What is declared first of the setup phase runs first of it, behind the phase before. -/
theorem exists_inPhaseOrder_cons_of_setup {step : Step} (h : step.phase = .setup)
    (steps : List Step) :
    ∃ late, inPhaseOrder (step :: steps) = steps.filter (·.phase = .clean) ++ step :: late ∧
      ∀ other ∈ late, other ∈ steps ∧ other.phase ≠ .clean := by
  refine ⟨[Phase.setup, .send, .exchange, .expect, .cleanup].flatMap fun phase =>
    steps.filter (·.phase = phase), ?_, fun other hother => ?_⟩
  · simp only [inPhaseOrder, Phase.all, List.flatMap_cons, List.flatMap_nil, List.filter_cons, h,
      reduceCtorEq, decide_false, decide_true, Bool.false_eq_true, if_true, if_false,
      List.cons_append]
  · obtain ⟨phase, hphase, hin⟩ := List.mem_flatMap.1 hother
    obtain ⟨hmem, heq⟩ := List.mem_filter.1 hin
    rw [of_decide_eq_true heq]
    refine ⟨hmem, ?_⟩
    rintro rfl
    revert hphase
    decide

end Pipeline

end HttpTest
