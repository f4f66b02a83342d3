import HttpTest.Scenario.Document
import HttpTest.Proofs.Toml.Shape

/-!
# Suites that are read

The headers of a suite that is read from a text, those of each scenario and those in common, are in
the order of their names, whatever the order in the text.
-/

namespace HttpTest

open Toml

theorem Defaults.ensures_decode :
    (Defaults.schema.decode ⟨[], []⟩).Ensures fun defaults =>
      Dictionary.Sorted defaults.headers := by
  refine Schema.ensures_decode List.Pairwise.nil ?_
  simp only [schema, List.forall_mem_cons, List.not_mem_nil, false_implies, implies_true, and_true]
  exact
    ⟨Field.keeps_of (Decoder.ensures_dictionary _) fun _ _ hsorted _ => hsorted,
      Field.keeps_of (Decoder.ensures_true _) fun _ _ _ hdefaults => hdefaults⟩

theorem Scenario.ensures_decode :
    Scenario.decode.Ensures fun scenario => Dictionary.Sorted scenario.headers := by
  refine Schema.ensures_decode List.Pairwise.nil ?_
  have hother {α : Type} {name : String} {need : Need} {decoder : Decoder α}
      {store : α → Scenario → Scenario}
      (h : ∀ data scenario, (store data scenario).headers = scenario.headers) :
      (Field.of name need decoder store).Keeps fun scenario =>
        Dictionary.Sorted scenario.headers :=
    Field.keeps_of (Decoder.ensures_true _) fun data scenario _ hscenario =>
      (h data scenario).symm ▸ hscenario
  simp only [schema, List.forall_mem_cons, List.not_mem_nil, false_implies, implies_true, and_true]
  exact
    ⟨hother fun _ _ => rfl, hother fun _ _ => rfl, hother fun _ _ => rfl,
      Field.keeps_of (Decoder.ensures_dictionary _) fun _ _ hsorted _ => hsorted,
      hother fun _ _ => rfl, hother fun _ _ => rfl, hother fun _ _ => rfl, hother fun _ _ => rfl⟩

structure Suite.HeadersSorted (suite : Suite) : Prop where
  defaults : Dictionary.Sorted suite.defaults.headers
  scenarios : ∀ scenario ∈ suite.scenarios, Dictionary.Sorted scenario.headers

theorem Suite.ensures_decode :
    (Suite.schema.decode ⟨none, ⟨[], []⟩, []⟩).Ensures Suite.HeadersSorted := by
  refine Schema.ensures_decode ⟨List.Pairwise.nil, fun _ hin => absurd hin List.not_mem_nil⟩ ?_
  simp only [schema, List.forall_mem_cons, List.not_mem_nil, false_implies, implies_true, and_true]
  exact
    ⟨Field.keeps_of (Decoder.ensures_true _) fun _ _ _ hsuite => ⟨hsuite.1, hsuite.2⟩,
      Field.keeps_of Defaults.ensures_decode fun _ _ hdefaults hsuite => ⟨hdefaults, hsuite.2⟩,
      Field.keeps_of (Decoder.ensures_list Scenario.ensures_decode) fun _ _ hscenarios hsuite =>
        ⟨hsuite.1, hscenarios⟩⟩

end HttpTest
