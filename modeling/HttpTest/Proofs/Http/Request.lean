import HttpTest.Run.Context
import HttpTest.Proofs.Http.Header

/-!
# Requests that are put together call by call

Whatever the calls that change a request, its headers are the ones that were set, less those that a
later one of the same name, up to case, replaces (`headers_applyAll`, `Header.setAll_nil`). A
document sets a content type only where there is none, so one that is given counts, whether it comes
before the document or after it (`contentType_applyAll`).
-/

namespace HttpTest

namespace Header

/-- The headers that no later one of the same name, up to case, replaces. -/
def latest : List Header → List Header
  | [] => []
  | header :: rest =>
    if rest.any fun later => Text.equalIgnoringCase header.1 later.1 then latest rest
    else header :: latest rest

theorem latest_sublist (headers : List Header) : (latest headers).Sublist headers := by
  induction headers with
  | nil => exact List.Sublist.refl []
  | cons header rest ih =>
    unfold latest
    split
    · exact ih.cons header
    · exact ih.cons_cons header

theorem pairwise_latest (headers : List Header) :
    (latest headers).Pairwise fun first second =>
      Text.equalIgnoringCase first.1 second.1 = false := by
  induction headers with
  | nil => exact List.Pairwise.nil
  | cons header rest ih =>
    unfold latest
    split
    · exact ih
    · rename_i hnone
      refine List.pairwise_cons.2 ⟨fun later hlater => ?_, ih⟩
      simp only [List.any_eq_true, not_exists, not_and, Bool.not_eq_true] at hnone
      exact hnone later ((latest_sublist rest).subset hlater)

/-- What is left of some headers after others were set is what none of those replaces. -/
theorem setAll_eq (headers entries : List Header) :
    setAll headers entries
      = headers.filter (fun header => !entries.any fun entry =>
          Text.equalIgnoringCase header.1 entry.1) ++ latest entries := by
  induction entries generalizing headers with
  | nil =>
    rw [latest, List.append_nil]
    exact (List.filter_eq_self.2 fun _ _ => rfl).symm
  | cons entry entries ih =>
    have hcons : setAll headers (entry :: entries)
        = setAll (set headers entry.1 entry.2) entries := rfl
    rw [hcons, ih, set, List.filter_append, List.filter_filter, List.append_assoc]
    congr 1
    · refine List.filter_congr fun header _ => ?_
      rw [List.any_cons, Bool.not_or, Bool.and_comm]
    · -- the entry itself stays unless it is set again
      rw [latest, List.filter_cons]
      cases entries.any fun later => Text.equalIgnoringCase entry.1 later.1 <;> rfl

theorem setAll_nil (entries : List Header) : setAll [] entries = latest entries := by
  rw [setAll_eq, List.filter_nil, List.nil_append]

theorem setAll_append (headers first second : List Header) :
    setAll headers (first ++ second) = setAll (setAll headers first) second :=
  List.foldl_append

end Header

namespace Request

theorem foldl_setHeader (request : Request) (headers : List (String × String)) :
    headers.foldl (fun request (name, value) => request.setHeader name value) request
      = { request with headers := Header.setAll request.headers headers } := by
  induction headers generalizing request with
  | nil => rfl
  | cons header headers ih => exact ih _

inductive Change where
  | method (method : Method)
  | url (url : String)
  | header (name value : String)
  | body (body : ByteArray)
  | bodyValue (value : Value)
  | document (value : Value)

namespace Change

def header? : Change → Option Header
  | .header name value => some (name, value)
  | _ => none

def isDocument : Change → Bool
  | .document _ => true
  | _ => false

end Change

def apply (request : Request) : Change → Request
  | .method method => request.setMethod method
  | .url url => request.setUrl url
  | .header name value => request.setHeader name value
  | .body body => request.setBody body
  | .bodyValue value => request.setBodyValue value
  | .document value => request.setBodyJson value

def applyAll (request : Request) (changes : List Change) : Request := changes.foldl apply request

@[simp] theorem applyAll_cons (request : Request) (change : Change) (changes : List Change) :
    request.applyAll (change :: changes) = (request.apply change).applyAll changes := rfl

/-- The header that a call sets: the one that it is given, or the content type of a document where
there is none yet. -/
def written? (request : Request) : Change → Option Header
  | .header name value => some (name, value)
  | .document _ =>
    if (request.header? "Content-Type").isNone then some ("Content-Type", "application/json")
    else none
  | _ => none

def writes (request : Request) : List Change → List Header
  | [] => []
  | change :: changes => (request.written? change).toList ++ (request.apply change).writes changes

theorem headers_apply (request : Request) (change : Change) :
    (request.apply change).headers
      = Header.setAll request.headers (request.written? change).toList := by
  cases change with
  | document value =>
    rw [apply, setBodyJson_eq, written?, header?]
    dsimp only
    split <;> rfl
  | bodyValue value => cases value <;> rfl
  | _ => rfl

theorem headers_applyAll (request : Request) (changes : List Change) :
    (request.applyAll changes).headers
      = Header.setAll request.headers (request.writes changes) := by
  induction changes generalizing request with
  | nil => rfl
  | cons change changes ih =>
    rw [applyAll_cons, ih, headers_apply, writes, Header.setAll_append]

theorem contentType_apply (request : Request) (change : Change) :
    (request.apply change).header? "Content-Type"
      = ((Header.findAll change.header?.toList "Content-Type").getLast?
          <|> request.header? "Content-Type"
          <|> if change.isDocument then some "application/json" else none) := by
  rw [header?, headers_apply]
  cases change with
  | header name value =>
    show Header.find? (Header.set request.headers name value) "Content-Type" = _
    rw [Header.find?_set, Change.header?, Option.toList_some, Header.findAll_cons]
    split
    · rfl
    · rw [header?]
      cases Header.find? request.headers "Content-Type" <;> rfl
  | document value =>
    rw [written?, header?]
    cases h : Header.find? request.headers "Content-Type" with
    | none =>
      show Header.find? (Header.set request.headers "Content-Type" "application/json") _ = _
      rw [Header.find?_set]
      rfl
    -- a document leaves a content type that is there already
    | some earlier => exact h
  | _ =>
    show header? request _ = _
    cases request.header? "Content-Type" <;> rfl

/-- The content type in the end is the last one that was given, or else the one before the calls.
Only if there is none of these it is that of a document. -/
theorem contentType_applyAll (request : Request) (changes : List Change) :
    (request.applyAll changes).header? "Content-Type"
      = ((Header.findAll (changes.filterMap Change.header?) "Content-Type").getLast?
          <|> request.header? "Content-Type"
          <|> if changes.any Change.isDocument then some "application/json" else none) := by
  induction changes generalizing request with
  | nil =>
    show request.header? _ = _
    cases request.header? "Content-Type" <;> rfl
  | cons change changes ih =>
    have hgiven : (change :: changes).filterMap Change.header?
        = change.header?.toList ++ changes.filterMap Change.header? := by
      cases h : change.header? <;> simp [h]
    rw [applyAll_cons, ih, contentType_apply, hgiven, Header.findAll_append, List.getLast?_append,
      List.any_cons]
    -- a later value, one that this call gives, and one from before count in this order
    cases (Header.findAll (changes.filterMap Change.header?) "Content-Type").getLast? <;>
      cases (Header.findAll change.header?.toList "Content-Type").getLast? <;>
      cases request.header? "Content-Type" <;> cases change.isDocument <;> rfl

/-- The request that a run starts with in some settings; without settings it is the blank one. -/
def start : Option Config → Request
  | some config => (Context.new config).request
  | none => blank

def presets : Option Config → List Header
  | some config => config.http.defaultHeaders
  | none => []

theorem headers_start (config? : Option Config) :
    (start config?).headers = Header.setAll [] (presets config?) := by
  cases config? with
  | none => rfl
  | some config =>
    rw [start, Context.new, foldl_setHeader]
    rfl

/-- Of a request that calls put together no two headers have one name, up to case. Its headers are
those that were set, in order and as they were spelled, less the ones that were replaced later; a
name has the last value that was set for it; and the content type is the last one given, whether
before a document or after it. -/
theorem headers_eq_latest (config? : Option Config) (changes : List Change) :
    let request := (start config?).applyAll changes
    let written := presets config? ++ (start config?).writes changes
    let given := presets config? ++ changes.filterMap Change.header?
    (request.headers.Pairwise fun first second =>
      Text.equalIgnoringCase first.1 second.1 = false) ∧
    request.headers = Header.latest written ∧
    (∀ name, request.header? name = (Header.findAll written name).getLast?) ∧
    request.header? "Content-Type" = ((Header.findAll given "Content-Type").getLast? <|>
      if changes.any Change.isDocument then some "application/json" else none) := by
  intro request written given
  have hset : request.headers = Header.setAll [] written := by
    rw [headers_applyAll, headers_start, ← Header.setAll_append]
  have hlast : ∀ entries name, Header.find? (Header.setAll [] entries) name
      = (Header.findAll entries name).getLast? := by
    intro entries name
    rw [Header.find?_eq_head?, Header.findAll_setAll]
    cases (Header.findAll entries name).getLast? <;> rfl
  refine ⟨?_, hset.trans (Header.setAll_nil written), fun name => ?_, ?_⟩
  · rw [hset, Header.setAll_nil]
    exact Header.pairwise_latest written
  · rw [header?, hset, hlast]
  · rw [contentType_applyAll, header?, headers_start, hlast, Header.findAll_append,
      List.getLast?_append]
    cases (Header.findAll (changes.filterMap Change.header?) "Content-Type").getLast? <;> rfl

/-- A content type replaces another that is spelled in another case, and no document changes it. -/
example :
    let config : Config := ⟨none, ⟨30, "", [("Accept", "*/*"), ("content-type", "text/plain")]⟩⟩
    let changes : List Change :=
      [.document .null, .header "CONTENT-TYPE" "a/b", .document .null, .header "accept" "a/b"]
    ((start (some config)).applyAll changes).headers
      = [("CONTENT-TYPE", "a/b"), ("accept", "a/b")] := by
  decide

end Request

end HttpTest
