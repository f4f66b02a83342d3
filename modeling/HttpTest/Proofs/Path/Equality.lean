import HttpTest.Path
import HttpTest.Proofs.Value.Interchange

/-!
# Two paths in either order

Equality of paths checks the arguments of the second path against those of the first, so it is
symmetric as far as these can change places: of two paths that are equal in one order, the same
holds in the other order exactly if the scalars at each place are interchangeable
(`equals_comm_iff`).
-/

namespace HttpTest

/-- In each argument a name stands for one entry. -/
def Segment.Regular (segment : Segment) : Prop := ∀ argument ∈ segment.arguments, argument.Regular

def Path.Regular (path : Path) : Prop := ∀ segment ∈ path.segments, segment.Regular

instance (path : Path) : Decidable path.Regular :=
  inferInstanceAs (Decidable (∀ segment ∈ path.segments, ∀ argument ∈ segment.arguments, _))

theorem argumentsMatch_eq_acceptsItems {patterns arguments : List Value}
    (hp : ∀ pattern ∈ patterns, pattern.Regular) (ha : ∀ argument ∈ arguments, argument.Regular) :
    argumentsMatch patterns arguments = Value.acceptsItems patterns arguments := by
  induction patterns generalizing arguments with
  | nil => cases arguments <;> rfl
  | cons pattern patterns ih =>
    cases arguments with
    | nil => rfl
    | cons argument arguments =>
      obtain ⟨hpattern, hpatterns⟩ := List.forall_mem_cons.1 hp
      obtain ⟨hargument, harguments⟩ := List.forall_mem_cons.1 ha
      have hhead : (Check.equal pattern argument).isOk = pattern.accepts argument := by
        rw [Bool.eq_iff_iff, ← Value.matchesItem_eq_accepts hpattern hargument,
          ← Check.equal_eq_ok_iff]
        cases Check.equal pattern argument <;> simp [Except.isOk, Except.toBool]
      rw [Value.acceptsItems, ← ih hpatterns harguments, ← hhead, argumentsMatch, argumentsMatch,
        argumentsStartWith, List.length_cons, List.length_cons]
      have hlength : (patterns.length + 1 == arguments.length + 1)
          = (patterns.length == arguments.length) := by
        simp
      rw [hlength]
      exact Bool.and_left_comm _ _ _

namespace Segment

/-- The calls have one name, and either of them has no arguments, or they have as many and those of
the first accept those of the second. -/
structure Agrees (first second : Segment) : Prop where
  name_eq : first.name = second.name
  arguments : first.arguments = [] ∨ second.arguments = [] ∨
    Value.acceptsItems first.arguments second.arguments = true

def compared (first second : Segment) : List (Value × Value) :=
  Value.alignedItems second.arguments first.arguments

theorem agrees_symm_iff {first second : Segment} (hf : first.Regular) (hs : second.Regular)
    (h : first.Agrees second) : second.Agrees first ↔
      ∀ pair ∈ first.compared second, pair.1.interchangeable pair.2 = true := by
  obtain ⟨name, patterns⟩ := first
  obtain ⟨other, arguments⟩ := second
  obtain rfl : name = other := h.name_eq
  cases patterns with
  | nil =>
    -- where one side has no arguments there is nothing to compare
    have hnone : Value.alignedItems arguments [] = [] := by
      cases arguments <;> rfl
    rw [compared, hnone]
    exact iff_of_true ⟨rfl, .inr (.inl rfl)⟩ (List.forall_mem_nil _)
  | cons pattern patterns =>
    cases arguments with
    | nil => exact iff_of_true ⟨rfl, .inl rfl⟩ (List.forall_mem_nil _)
    | cons argument arguments =>
      have haccepts : Value.acceptsItems (pattern :: patterns) (argument :: arguments) = true := by
        simpa using h.arguments
      -- both have arguments, so each direction is that the ones accept the others
      have hback := Value.acceptsItems_symm_iff hf hs
        (fun value _ => value.symmetricUpToScalars) haccepts
      rw [compared, ← hback]
      exact ⟨fun hb => by simpa using hb.arguments, fun hb => ⟨rfl, .inr (.inr hb)⟩⟩

end Segment

namespace Path

theorem equals_iff {first second : Path} (hf : first.Regular) (hs : second.Regular) :
    first.equals second = true ↔ first.size = second.size ∧
      ∀ pair ∈ first.segments.zip second.segments, pair.1.Agrees pair.2 := by
  rw [equals, Bool.and_eq_true, beq_iff_eq, List.all_eq_true]
  refine and_congr_right fun _ => forall₂_congr ?_
  rintro ⟨call, other⟩ hpair
  obtain ⟨hcall, hother⟩ := List.of_mem_zip hpair
  dsimp only
  rw [argumentsMatch_eq_acceptsItems (hf _ hcall) (hs _ hother)]
  simp only [Bool.and_eq_true, Bool.or_eq_true, beq_iff_eq, List.isEmpty_iff, or_assoc]
  exact ⟨fun h => ⟨h.1, h.2⟩, fun h => ⟨h.name_eq, h.arguments⟩⟩

/-- The pairs of values at the same place in the arguments of two paths. -/
def compared (first second : Path) : List (Value × Value) :=
  (first.segments.zip second.segments).flatMap fun pair => pair.1.compared pair.2

theorem equals_symm_iff {first second : Path} (hf : first.Regular) (hs : second.Regular)
    (h : first.equals second = true) : second.equals first = true ↔
      ∀ pair ∈ first.compared second, pair.1.interchangeable pair.2 = true := by
  rw [equals_iff hf hs] at h
  rw [equals_iff hs hf, and_iff_right h.1.symm, ← List.zip_swap, List.forall_mem_map, compared,
    List.forall_mem_flatMap]
  refine forall₂_congr fun pair hpair => ?_
  obtain ⟨hfirst, hsecond⟩ := List.of_mem_zip hpair
  exact Segment.agrees_symm_iff (hf _ hfirst) (hs _ hsecond) (h.2 pair hpair)

/-- The values compared in one order are those compared in the other. -/
theorem interchangeable_of_compared_swap {first second : Path} (hs : second.Regular)
    (h : ∀ pair ∈ second.compared first, pair.1.interchangeable pair.2 = true) :
    ∀ pair ∈ first.compared second, pair.1.interchangeable pair.2 = true := by
  rw [compared, List.forall_mem_flatMap] at h ⊢
  rintro ⟨call, other⟩ hpair
  have hother := (List.of_mem_zip hpair).2
  have hswap : (other, call) ∈ second.segments.zip first.segments := by
    rw [← List.zip_swap]
    exact List.mem_map_of_mem hpair
  have hback := Value.alignedItems_swap (fun pair => pair.1.interchangeable pair.2 = true)
    (hs other hother) (fun value _ => value.alignedSwap) (h _ hswap)
  intro pair hm
  rw [Value.interchangeable_comm]
  exact hback pair hm

/-- The order of two paths does not matter to their equality exactly if they are equal in neither
order or the scalars at each place of their arguments are interchangeable. -/
theorem equals_comm_iff {first second : Path} (hf : first.Regular) (hs : second.Regular) :
    first.equals second = second.equals first ↔
      (first.equals second = true ∨ second.equals first = true →
        ∀ pair ∈ first.compared second, pair.1.interchangeable pair.2 = true) := by
  cases hfirst : first.equals second with
  | true =>
    rw [← equals_symm_iff hf hs hfirst, eq_comm]
    exact ⟨fun h _ => h, fun h => h (.inl rfl)⟩
  | false =>
    cases hsecond : second.equals first with
    | false => simp
    | true =>
      -- the other direction failed, so some pair is not interchangeable
      have hback := equals_symm_iff hs hf hsecond
      rw [hfirst] at hback
      refine iff_of_false Bool.false_ne_true fun hall => ?_
      exact Bool.false_ne_true (hback.2 (interchangeable_of_compared_swap hf (hall (.inr rfl))))

/-- The status 200 goes together with its own text, in either order, but not with another numeral
of it. -/
theorem equals_comm_of_own_text :
    let status (code : Value) : Path := root.push "status" [code]
    (status (.int 200)).equals (status (.string "200"))
        = (status (.string "200")).equals (status (.int 200)) ∧
      (status (.int 200)).equals (status (.string "0200"))
        ≠ (status (.string "0200")).equals (status (.int 200)) := by
  intro status
  constructor
  · exact (equals_comm_iff (by decide) (by decide)).2 fun _ => by decide
  · intro h
    have hall := (equals_comm_iff (by decide) (by decide)).1 h (.inl (by decide))
    exact absurd hall (by decide)

/-- Which path comes first matters: a numeral is coerced to the integer that it is compared to, and
the integer to its own text. -/
theorem not_equals_comm : ¬ ∀ first second : Path, first.equals second = second.equals first := by
  intro h
  have hcomm := h (root.push "status" [.int 200]) (root.push "status" [.string "0200"])
  exact absurd hcomm (by decide)

end Path

end HttpTest
