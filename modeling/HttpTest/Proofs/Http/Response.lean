import HttpTest.Chain.Expect
import HttpTest.Proofs.Http.CanonicalName
import HttpTest.Proofs.Run.Effects
import HttpTest.Proofs.Value.Containment

/-!
# The two views of the headers of a response

A header is looked up in the list that was received, up to case, or all headers are taken as a map
under their canonical names. The map is built by appending each header to what its name had before,
so it holds under a canonical name just the joined values of that name (`find?_headerEntries`). Its
keys are the names without those that differ only in case (`length_headerEntries`), and with that
the assertions on all headers say what the lookups of single ones do.
-/

namespace HttpTest
namespace Response

def joined? : List String → Option String
  | [] => none
  | values => some (String.intercalate headerSeparator values)

def joinTo (earlier : Option String) (value : String) : String :=
  match earlier with
  | some earlier => earlier ++ headerSeparator ++ value
  | none => value

theorem joined?_concat (values : List String) (value : String) :
    joined? (values ++ [value]) = some (joinTo (joined? values) value) := by
  cases values with
  | nil => simp [joined?, joinTo]
  | cons first rest =>
    show some (String.intercalate headerSeparator ((first :: rest) ++ [value])) = _
    rw [String.intercalate_append_of_ne_nil (List.cons_ne_nil first rest)
      (List.cons_ne_nil value []), String.intercalate_singleton]
    rfl

theorem headerEntries_concat (headers : List Header) (name value : String) :
    headerEntries (headers ++ [(name, value)])
      = Dictionary.insert (Header.canonicalName name)
          (joinTo (Dictionary.find? (Header.canonicalName name) (headerEntries headers)) value)
          (headerEntries headers) := by
  rw [headerEntries, List.foldl_append, ← headerEntries, List.foldl_cons, List.foldl_nil]
  dsimp only
  cases Dictionary.find? (Header.canonicalName name) (headerEntries headers) <;> rfl

theorem sorted_headerEntries (headers : List Header) :
    Dictionary.Sorted (headerEntries headers) := by
  induction headers using List.reverseRecOn with
  | nil => exact List.Pairwise.nil
  | append_singleton headers header ih =>
    rw [headerEntries_concat]
    exact Dictionary.sorted_insert _ _ ih

theorem mem_keys_headerEntries {key : String} {headers : List Header} :
    key ∈ Dictionary.keys (headerEntries headers) ↔
      ∃ header ∈ headers, Header.canonicalName header.1 = key := by
  induction headers using List.reverseRecOn with
  | nil => simp [headerEntries, Dictionary.keys]
  | append_singleton headers header ih =>
    rw [headerEntries_concat, Dictionary.mem_keys_insert, ih]
    simp [or_comm, eq_comm, or_and_right, exists_or]

/-- What is under a canonical name are the values of the name, joined in order. -/
theorem find?_headerEntries (headers : List Header) (name : String) :
    Dictionary.find? (Header.canonicalName name) (headerEntries headers)
      = joined? (Header.findAll headers name) := by
  -- from the end, since each header is joined to what the ones before it left
  induction headers using List.reverseRecOn with
  | nil => rfl
  | append_singleton headers header ih =>
    obtain ⟨own, value⟩ := header
    rw [headerEntries_concat, Dictionary.find?_insert, Header.findAll_append]
    by_cases h : Text.equalIgnoringCase own name = true
    · have hname := (Header.canonicalName_eq_iff own name).2 h
      have hown : Header.findAll [(own, value)] name = [value] := by
        rw [Header.findAll_cons, if_pos h]
        rfl
      rw [if_pos hname, hname, ih, hown, joined?_concat]
    · have hname : ¬ Header.canonicalName own = Header.canonicalName name :=
        fun e => h ((Header.canonicalName_eq_iff own name).1 e)
      have hown : Header.findAll [(own, value)] name = [] := by
        rw [Header.findAll_cons, if_neg h]
        rfl
      rw [if_neg hname, ih, hown, List.append_nil]

theorem length_dedup_map_congr {α β γ : Type} [DecidableEq β] [DecidableEq γ] {f : α → β}
    {g : α → γ} (h : ∀ x y, f x = f y ↔ g x = g y) (items : List α) :
    (items.map f).dedup.length = (items.map g).dedup.length := by
  induction items with
  | nil => rfl
  | cons item rest ih =>
    have hmem : f item ∈ rest.map f ↔ g item ∈ rest.map g := by simp [h]
    rw [List.map_cons, List.map_cons]
    by_cases hf : f item ∈ rest.map f
    · rw [List.dedup_cons_of_mem hf, List.dedup_cons_of_mem (hmem.1 hf), ih]
    · rw [List.dedup_cons_of_notMem hf, List.dedup_cons_of_notMem (fun hg => hf (hmem.2 hg)),
        List.length_cons, List.length_cons, ih]

/-- The names of some headers, without those that differ only in case. -/
def distinctNames (headers : List Header) : List (List Char) :=
  (headers.map fun header => header.1.toList.map Char.toLower).dedup

theorem length_headerEntries (headers : List Header) :
    (headerEntries headers).length = (distinctNames headers).length := by
  have hperm : (Dictionary.keys (headerEntries headers)).Perm
      (headers.map fun header => Header.canonicalName header.1).dedup := by
    refine (List.perm_ext_iff_of_nodup (sorted_headerEntries headers).nodup_keys
      (List.nodup_dedup _)).2 fun key => ?_
    rw [mem_keys_headerEntries, List.mem_dedup, List.mem_map]
  rw [← Dictionary.length_keys, hperm.length_eq, distinctNames]
  refine length_dedup_map_congr (fun first second => ?_) headers
  rw [Header.canonicalName_eq_iff, Text.equalIgnoringCase, beq_iff_eq]

/-- A name is found by the one lookup exactly if it is found by the other. -/
theorem mem_keys_headerEntries_iff (response : Response) (name : String) :
    Header.canonicalName name ∈ Dictionary.keys (headerEntries response.headers) ↔
      (response.header? name).isSome = true := by
  have hsome : (response.header? name).isSome = true ↔
      (joined? (Header.findAll response.headers name)).isSome = true := by
    rw [header?, Header.find?_eq_head?]
    cases Header.findAll response.headers name <;> simp [joined?]
  rw [hsome, ← find?_headerEntries, ← not_iff_not, ← Dictionary.find?_eq_none_iff]
  simp

end Response

namespace Assertion

theorem toFault_eq_ok_iff {check : Check} : check.toFault = .ok () ↔ check = .ok () := by
  cases check <;> simp [Check.toFault]

theorem checkHeaders_contains_iff (response : Response) (name : String) :
    (Assertion.contains (.string name)).checkHeaders none response = .ok () ↔
      (response.header? name).isSome = true := by
  -- the needle is searched for in canonical form, among the keys
  have hsearch : response.headersValue.contains (.string (Header.canonicalName name)) = true ↔
      Header.canonicalName name ∈ Dictionary.keys (Response.headerEntries response.headers) := by
    show (Dictionary.mapValues Value.string (Response.headerEntries response.headers)).any
      (fun entry => entry.1 == Header.canonicalName name) = true ↔ _
    rw [← Dictionary.keys_mapValues Value.string, Dictionary.keys, List.any_eq_true, List.mem_map]
    simp only [beq_iff_eq]
  show Check.toFault (Check.contains response.headersValue
    (.string (Header.canonicalName name))) = .ok () ↔ _
  rw [toFault_eq_ok_iff, Check.contains_eq_ok_iff, hsearch, Response.mem_keys_headerEntries_iff]

theorem checkHeaders_length_iff (response : Response) (size : UInt64) :
    (Assertion.length size).checkHeaders none response = .ok () ↔
      (Response.distinctNames response.headers).length = size.toNat := by
  have hlength : response.headersValue.length?
      = some (Response.distinctNames response.headers).length := by
    rw [← Response.length_headerEntries]
    exact congrArg some (List.length_map _)
  show Check.toFault (Check.hasLength response.headersValue size.toNat) = .ok () ↔ _
  rw [toFault_eq_ok_iff, Check.hasLength, Check.length, hlength]
  show (if _ then _ else _) = _ ↔ _
  split <;> simp_all

end Assertion

namespace Response

/-- The two views of the headers agree. A lookup by canonical name is one up to case; the map has an
entry where there is a header, which is its value; and the assertions that a name is among the
headers and on their number count names up to case. -/
theorem header_views_agree (response : Response) :
    (∀ first second, Header.canonicalName first = Header.canonicalName second ↔
      Text.equalIgnoringCase first second = true) ∧
    (∀ name, Header.canonicalName (Header.canonicalName name) = Header.canonicalName name) ∧
    (∃ entries, response.headersValue = .map entries ∧ Dictionary.Sorted entries ∧
      ∀ name, Dictionary.find? (Header.canonicalName name) entries
        = (response.header? name).map fun _ => response.headerValue name) ∧
    ∀ context : Context, context.response = some response →
      (∀ name, Run.doSteps [(ExpectChain.headersAre (.headers .expect)
          (.contains (.string name))).step] context = .ok (.ok ()) context ↔
        (response.header? name).isSome = true) ∧
      ∀ size, Run.doSteps [(ExpectChain.headersAre (.headers .expect)
          (.length size)).step] context = .ok (.ok ()) context ↔
        (distinctNames response.headers).length = size.toNat := by
  refine ⟨Header.canonicalName_eq_iff, Header.canonicalName_canonicalName,
    ⟨_, rfl, ?_, fun name => ?_⟩, fun context hresponse => ⟨fun name => ?_, fun size => ?_⟩⟩
  · rw [Dictionary.Sorted, Dictionary.keys_mapValues]
    exact sorted_headerEntries response.headers
  · rw [Dictionary.find?_mapValues, find?_headerEntries, header?, Header.find?_eq_head?,
      headerValue]
    cases Header.findAll response.headers name <;> rfl
  · rw [Run.doSteps_check_iff rfl hresponse]
    exact Assertion.checkHeaders_contains_iff response name
  · rw [Run.doSteps_check_iff rfl hresponse]
    exact Assertion.checkHeaders_length_iff response size

/-- Names that start with a hyphen or have other letters, repeated in other cases. -/
theorem header_views_agree_of_repeated :
    let response : Response :=
      ⟨200, [("x-tag", "a"), ("-x--É", "1"), ("X-TAG", "b"), ("-X--É", "2")], ByteArray.empty⟩
    let context : Context := { Context.new .standard with response := some response }
    Dictionary.find? "X-Tag" (headerEntries response.headers) = some "a, b" ∧
    Run.doSteps [(ExpectChain.headersAre (.headers .expect) (.contains (.string "-x--É"))).step]
      context = .ok (.ok ()) context ∧
    Run.doSteps [(ExpectChain.headersAre (.headers .expect) (.length 2)).step] context
      = .ok (.ok ()) context := by
  intro response context
  have hviews := (header_views_agree response).2.2.2 context rfl
  refine ⟨by decide +kernel, (hviews.1 "-x--É").2 (by decide +kernel), (hviews.2 2).2 ?_⟩
  decide +kernel

end Response

end HttpTest
