import Mathlib.Logic.Function.Iterate
import HttpTest.Proofs.Http.Url
import HttpTest.Proofs.Run.Effects

/-!
# Exchanges in a row

An exchange keeps the request as it was handed over, with the base address in front. The next one
hands over the same request if it finds that the address needs no base any more, which it does if
the address has a scheme by now; a base address without one is put in front again.
-/

namespace HttpTest

open Attempt (exchange)

namespace Request

theorem under_eq_self_iff {request : Request} {baseUrl : Option String} :
    request.under baseUrl = request ↔
      Url.hasScheme request.url = true ∨ baseUrl.getD "" = "" := by
  unfold under
  split
  next hscheme => exact iff_of_true rfl (.inl hscheme)
  next hscheme =>
    rw [or_iff_right hscheme]
    constructor
    · intro hsame
      have hurl : baseUrl.getD "" ++ request.url = request.url := congrArg Request.url hsame
      have hlength := congrArg String.length hurl
      rw [String.length_append] at hlength
      exact String.length_eq_zero_iff.1 (by omega)
    · intro hempty
      rw [hempty, String.empty_append]
      rfl

end Request

namespace Context

/-- The context after an exchange, whatever came of it. -/
def afterExchange (context : Context) : Context :=
  match exchange.run context with
  | .ok _ after => after
  | .error _ after => after

/-- An exchange leaves nothing to put in front of the address: it has a scheme, or there is no base
address. -/
def Settles (context : Context) : Prop :=
  Url.hasScheme context.resolvedRequest.url = true ∨ context.baseUrl.getD "" = ""

instance (context : Context) : Decidable context.Settles := inferInstanceAs (Decidable (_ ∨ _))

theorem under_resolvedRequest_iff {context : Context} :
    context.resolvedRequest.under context.baseUrl = context.resolvedRequest ↔ context.Settles :=
  Request.under_eq_self_iff

theorem method_resolvedRequest (context : Context) :
    context.resolvedRequest.method = context.request.method := by
  rw [resolvedRequest_eq, Request.method_under]

theorem settles_of_hasScheme {context : Context} {base : String}
    (hbase : context.baseUrl = some base) (hscheme : Url.hasScheme base = true) :
    context.Settles := by
  refine .inl ?_
  rw [resolvedRequest_eq, Request.under_eq, hbase]
  dsimp only
  split
  next hurl => exact hurl
  next => exact Url.hasScheme_append hscheme context.request.url

section

variable {context : Context} (hmethod : context.request.method ≠ none)

include hmethod

theorem afterExchange_eq :
    ∃ response journal, context.afterExchange
      = { context with
          request := context.resolvedRequest
          response
          connection := context.connection.map (·.after context.resolvedRequest)
          journal } := by
  rw [afterExchange, Attempt.run_exchange hmethod]
  exact ⟨_, _, rfl⟩

/-- In a row of exchanges that settles, each starts with the one request that they hand over. -/
theorem iterate_afterExchange (hsettles : context.Settles) (n : Nat) :
    let after := afterExchange^[n] context
    after.request.method ≠ none ∧ after.resolvedRequest = context.resolvedRequest ∧
      after.baseUrl = context.baseUrl ∧
      after.connection = context.connection.map fun connection =>
        { connection with
          handed := connection.handed ++ List.replicate n context.resolvedRequest } := by
  induction n with
  | zero =>
    refine ⟨hmethod, rfl, rfl, ?_⟩
    simp
  | succ n ih =>
    obtain ⟨hset, hrequest, hbase, hconnection⟩ := ih
    obtain ⟨response, journal, hafter⟩ := afterExchange_eq hset
    rw [Function.iterate_succ_apply', hafter]
    refine ⟨?_, ?_, hbase, ?_⟩
    · rw [hrequest, method_resolvedRequest]
      exact hmethod
    · -- the request was kept with the base address in front, which changes nothing once more
      rw [resolvedRequest_eq]
      dsimp only
      rw [hrequest, hbase]
      exact under_resolvedRequest_iff.2 hsettles
    · dsimp only
      rw [hconnection, hrequest]
      simp only [Option.map_map, Function.comp_def, Connection.after, List.replicate_succ',
        List.append_assoc]

/-- Two exchanges that hand over the same request leave nothing to put in front of its address. -/
theorem settles_of_two {request : Request}
    (hfirst : exchange.run context = context.handOver request)
    (hsecond : exchange.run context.afterExchange = context.afterExchange.handOver request) :
    context.Settles := by
  -- the request is kept in the context, so it tells which one was handed over
  have hkept : ∀ {before : Context} {first second : Request},
      before.handOver first = before.handOver second → first = second := by
    intro before first second hsame
    unfold handOver at hsame
    injection hsame with _ hcontext
    exact congrArg Context.request hcontext
  have hrequest : context.resolvedRequest = request :=
    hkept ((Attempt.run_exchange hmethod).symm.trans hfirst)
  obtain ⟨response, journal, hafter⟩ := afterExchange_eq hmethod
  have hset : context.afterExchange.request.method ≠ none := by
    rw [hafter]
    exact (method_resolvedRequest context).trans_ne hmethod
  have hagain : context.afterExchange.resolvedRequest = request :=
    hkept ((Attempt.run_exchange hset).symm.trans hsecond)
  rw [resolvedRequest_eq, hafter] at hagain
  rw [← under_resolvedRequest_iff]
  exact hagain.trans hrequest.symm

/-- However the transport answers, exchanges in a row hand over one and the same request exactly if
nothing is left to put in front of its address after the first of them, as is the case for every
base address with a scheme. It is the request of the first exchange, with the base address in front
once at most. -/
theorem exchanges_hand_over_one_request_iff :
    ((∃ request, ∀ n, exchange.run (afterExchange^[n] context)
        = (afterExchange^[n] context).handOver request) ↔ context.Settles) ∧
    (context.Settles → ∀ n,
      exchange.run (afterExchange^[n] context)
          = (afterExchange^[n] context).handOver context.resolvedRequest ∧
        ∀ connection, context.connection = some connection →
          (afterExchange^[n] context).connection
            = some { connection with
                handed := connection.handed ++ List.replicate n context.resolvedRequest }) ∧
    ∀ base, context.baseUrl = some base → Url.hasScheme base = true → context.Settles := by
  have hsame : context.Settles → ∀ n, exchange.run (afterExchange^[n] context)
      = (afterExchange^[n] context).handOver context.resolvedRequest := by
    intro hsettles n
    obtain ⟨hset, hrequest, -, -⟩ := iterate_afterExchange hmethod hsettles n
    rw [Attempt.run_exchange hset, hrequest]
  refine ⟨⟨?_, fun hsettles => ⟨_, hsame hsettles⟩⟩, fun hsettles n => ⟨hsame hsettles n, ?_⟩,
    fun base hbase hscheme => settles_of_hasScheme hbase hscheme⟩
  · -- the first two exchanges tell already
    rintro ⟨request, hrow⟩
    exact settles_of_two hmethod (hrow 0) (hrow 1)
  · intro connection hconnection
    obtain ⟨-, -, -, hhanded⟩ := iterate_afterExchange hmethod hsettles n
    rw [hhanded, hconnection]
    rfl

end

/-- With a transport that always fails, three exchanges under an absolute base address hand over
one request. -/
theorem exchanges_hand_over_one_request_of_failing :
    let transport : Transport := .failing (.request "refused")
    let context : Context :=
      { Context.new .standard with
        request := (Request.blank.setMethod .get).setUrl "/users"
        baseUrl := some "http://localhost:8080"
        connection := some (.fresh transport) }
    context.request.method ≠ none ∧ Url.hasScheme "http://localhost:8080" = true ∧
      context.Settles ∧
      (afterExchange^[3] context).connection
        = some ⟨transport, List.replicate 3 context.resolvedRequest⟩ ∧
      context.resolvedRequest.url = "http://localhost:8080/users" := by
  intro transport context
  have hmethod : context.request.method ≠ none := nofun
  have hscheme : Url.hasScheme "http://localhost:8080" = true := by decide
  obtain ⟨-, hrow, hbase⟩ := exchanges_hand_over_one_request_iff hmethod
  have hsettles : context.Settles := hbase _ rfl hscheme
  exact ⟨hmethod, hscheme, hsettles, (hrow hsettles 3).2 _ rfl, by decide⟩

/-- A base address without a scheme is put in front by each exchange, so two of them do not hand
over the same request. -/
theorem not_exchanges_hand_over_one_request :
    let context : Context :=
      { Context.new .standard with
        request := (Request.blank.setMethod .get).setUrl "/users"
        baseUrl := some "localhost:8080"
        connection := some (.fresh .echo) }
    context.request.method ≠ none ∧
      (afterExchange^[2] context).connection.map (fun connection => connection.handed.map Request.url)
        = some ["localhost:8080/users", "localhost:8080localhost:8080/users"] ∧
      ¬ ∃ request, ∀ n, exchange.run (afterExchange^[n] context)
          = (afterExchange^[n] context).handOver request := by
  intro context
  have hmethod : context.request.method ≠ none := nofun
  refine ⟨hmethod, by decide, ?_⟩
  rintro ⟨request, hrow⟩
  have hsettles : context.Settles := settles_of_two hmethod (hrow 0) (hrow 1)
  exact absurd hsettles (by decide)

end Context

end HttpTest
