import Mathlib.Data.List.Forall2

/-!
# Results

What a result that is no failure says about the results it was computed from.
-/

namespace HttpTest.Result

variable {ε ε' α β : Type}

theorem exists_of_bind {result : Except ε α} {next : α → Except ε β} {data : β}
    (h : (result >>= next) = .ok data) : ∃ first, result = .ok first ∧ next first = .ok data := by
  cases result with
  | error fault => cases h
  | ok first => exact ⟨first, rfl, h⟩

theorem exists_of_map {f : α → β} {result : Except ε α} {data : β}
    (h : result.map f = .ok data) : ∃ first, result = .ok first ∧ data = f first := by
  cases result with
  | error fault => cases h
  | ok first => exact ⟨first, rfl, (Except.ok.inj h).symm⟩

theorem eq_ok_of_mapError {f : ε → ε'} {result : Except ε α} {data : α}
    (h : result.mapError f = .ok data) : result = .ok data := by
  cases result with
  | error fault => cases h
  | ok first => exact congrArg Except.ok (Except.ok.inj h)

theorem forall₂_of_mapM {f : α → Except ε β} {elements : List α} {data : List β}
    (h : elements.mapM f = .ok data) :
    List.Forall₂ (fun element result => f element = .ok result) elements data := by
  induction elements generalizing data with
  | nil =>
    cases h
    exact .nil
  | cons element elements ih =>
    rw [List.mapM_cons] at h
    obtain ⟨first, hfirst, hrest⟩ := exists_of_bind h
    obtain ⟨rest, helements, hdata⟩ := exists_of_bind hrest
    cases hdata
    exact .cons hfirst (ih helements)

theorem forall_of_mapM {f : α → Except ε β} {P : β → Prop} {elements : List α} {data : List β}
    (h : elements.mapM f = .ok data)
    (hf : ∀ element ∈ elements, ∀ result, f element = .ok result → P result) :
    ∀ result ∈ data, P result := by
  have hresults := forall₂_of_mapM h
  clear h
  induction hresults with
  | nil => exact fun _ hin => absurd hin List.not_mem_nil
  | cons hfirst _ ih =>
    obtain ⟨helement, helements⟩ := List.forall_mem_cons.1 hf
    exact List.forall_mem_cons.2 ⟨helement _ hfirst, ih helements⟩

end HttpTest.Result
