import HttpTest.Toml.Document
import HttpTest.Proofs.Result

/-!
# What decoders ensure

A property of all data that a decoder can give. A record has one if it holds with every field left
out and no field changes it (`Schema.ensures_decode`), whatever the order of the fields and whether
the record is written as a table or as an array.
-/

namespace HttpTest.Toml

def Decoder.Ensures {α : Type} (decoder : Decoder α) (P : α → Prop) : Prop :=
  ∀ value data, decoder value = .ok data → P data

/-- A field that is decoded leaves the property as it is. -/
def Field.Keeps {σ : Type} (field : Field σ) (P : σ → Prop) : Prop :=
  ∀ value change, field.decode value = .ok change → ∀ record, P record → P (change record)

namespace Decoder

variable {α : Type}

theorem ensures_true (decoder : Decoder α) : decoder.Ensures fun _ => True :=
  fun _ _ _ => trivial

theorem eq_ok_of_placed {span : Option Span} {result : Except ShapeError α} {data : α}
    (h : placed span result = .ok data) : result = .ok data :=
  Result.eq_ok_of_mapError h

theorem ensures_dictionary (item : Decoder α) :
    (dictionary item).Ensures Dictionary.Sorted := by
  intro value data h
  unfold dictionary at h
  split at h
  · cases h
  next entries _ =>
    have hplaced := eq_ok_of_placed h
    obtain ⟨decoded, _, hdata⟩ := Result.exists_of_bind (eq_ok_of_placed h)
    cases hdata
    exact Dictionary.sorted_ofList decoded

theorem ensures_list {item : Decoder α} {P : α → Prop} (h : item.Ensures P) :
    (list item).Ensures fun data => ∀ element ∈ data, P element := by
  intro value data hdata
  unfold list at hdata
  split at hdata
  next items _ =>
    exact Result.forall_of_mapM hdata fun element _ => h element
  next => cases hdata

end Decoder

namespace Field

variable {σ α : Type}

theorem keeps_of {name : String} {need : Need} {decoder : Decoder α} {store : α → σ → σ}
    {P : σ → Prop} {Q : α → Prop} (h : decoder.Ensures Q)
    (hstore : ∀ data record, Q data → P record → P (store data record)) :
    (Field.of name need decoder store).Keeps P := by
  intro value change hchange record hrecord
  obtain ⟨data, hdata, rfl⟩ := Result.exists_of_map hchange
  exact hstore data record (h value data hdata) hrecord

end Field

namespace Schema

variable {σ : Type} {schema : Schema σ} {P : σ → Prop}

theorem of_addEntries (h : ∀ field ∈ schema.fields, field.Keeps P)
    {entries : List (Located String × Located Toml)} {record data : σ} (hrecord : P record)
    (hdata : schema.addEntries record entries = .ok data) : P data := by
  induction entries generalizing record with
  | nil =>
    cases hdata
    exact hrecord
  | cons entry entries ih =>
    obtain ⟨key, value⟩ := entry
    unfold addEntries at hdata
    split at hdata
    next field hfield =>
      split at hdata
      next change hchange =>
        have hkeeps := h field (List.mem_of_find?_eq_some hfield)
        exact ih (hkeeps value change (Decoder.eq_ok_of_placed hchange) record hrecord) hdata
      next => cases hdata
    next =>
      split at hdata
      · cases hdata
      · exact ih hrecord hdata

theorem of_addItems {length : Nat} {fields : List (Field σ)}
    (hfields : ∀ field ∈ fields, field.Keeps P)
    {items : List (Located Toml)} {record data : σ} (hrecord : P record)
    (hdata : schema.addItems length record fields items = .ok data) : P data := by
  induction fields generalizing record items with
  | nil =>
    cases hdata
    exact hrecord
  | cons field fields ih =>
    obtain ⟨hfield, hfields⟩ := List.forall_mem_cons.1 hfields
    cases items with
    | nil =>
      -- a field behind the last item is left out, if it may be
      unfold addItems at hdata
      split at hdata
      · exact ih hfields hrecord hdata
      · cases hdata
    | cons item items =>
      unfold addItems at hdata
      split at hdata
      next change hchange => exact ih hfields (hfield item change hchange record hrecord) hdata
      next => cases hdata

/-- What holds with every field left out and is kept by each field holds of every record. -/
theorem ensures_decode {initial : σ} (hinitial : P initial)
    (h : ∀ field ∈ schema.fields, field.Keeps P) : (schema.decode initial).Ensures P := by
  intro value data hdata
  have hrecord := Decoder.eq_ok_of_placed hdata
  split at hrecord
  next entries _ =>
    split at hrecord
    · cases hrecord
    next record hadded =>
      split at hrecord
      · cases hrecord
      · cases hrecord
        exact of_addEntries h hinitial hadded
  next items _ _ => exact of_addItems h hinitial hrecord
  next => cases hrecord

end Schema

end HttpTest.Toml
