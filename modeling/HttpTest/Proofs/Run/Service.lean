import HttpTest.Run.Standalone
import HttpTest.Proofs.Run.Effects

/-!
# Runs over a service

A transport is memoryless if its answers depend on the request alone. What it was handed before a
run then makes no difference: two runs of the same steps over it go on side by side, come to the
same outcome and leave contexts that differ in what was handed over before (`alike_runOver`), as
long as the steps keep to the transport that they find.
-/

namespace HttpTest

open Pipeline

/-- What the transport was handed earlier makes no difference to its answers. -/
def Transport.Memoryless (transport : Transport) : Prop :=
  ∀ (earlier : List Request) (request : Request),
    transport.answer earlier request = transport.answer [] request

theorem Transport.memoryless_ofFunction (answer : Request → Reply) :
    (Transport.ofFunction answer).Memoryless := fun _ _ => rfl

/-- The contexts are the same but for what the transport was handed before, if there is one. -/
structure Context.Alike (service : Option Transport) (left right : Context) : Prop where
  left_service : left.connection.map (·.transport) = service
  right_service : right.connection.map (·.transport) = service
  eq_but_connection : right = { left with connection := right.connection }

/-- Both computations come to the same outcome, without a panic, and leave contexts that are alike.
-/
inductive Ended.Alike (service : Option Transport) {α : Type} : Ended α → Ended α → Prop
  | ok {outcome : α} {left right : Context} : Context.Alike service left right →
      Alike service (.ok outcome left) (.ok outcome right)

/-- Wherever it is run the effect does what steps can do, and it installs no transport. -/
def Effect.KeepsService (effect : Effect) : Prop := effect.phase? ≠ none ∧ effect.transport? = none

def Step.KeepsService (step : Step) : Prop :=
  ∀ effect, step.action = .run effect → effect.KeepsService

variable {service : Option Transport} {left right : Context}

namespace Context.Alike

theorem enter (h : Alike service left right) (call : String) :
    Alike service (left.enter call) (right.enter call) := by
  obtain ⟨hleft, hright, heq⟩ := h
  refine ⟨hleft, hright, ?_⟩
  rw [heq]
  rfl

theorem leave (h : Alike service left right) : Alike service left.leave right.leave := by
  obtain ⟨hleft, hright, heq⟩ := h
  refine ⟨hleft, hright, ?_⟩
  rw [heq]
  rfl

theorem failure_eq (h : Alike service left right) (call : String) (cause : Fault) :
    right.failure call cause = left.failure call cause := by
  rw [h.eq_but_connection]
  rfl

theorem response_eq (h : Alike service left right) : right.response? = left.response? := by
  rw [h.eq_but_connection]
  rfl

theorem resolvedRequest_eq (h : Alike service left right) :
    right.resolvedRequest = left.resolvedRequest := by
  rw [h.eq_but_connection]
  rfl

theorem method_eq (h : Alike service left right) : right.request.method = left.request.method := by
  rw [h.eq_but_connection]

theorem reply_eq (h : Alike service left right)
    (hservice : ∀ transport ∈ service, transport.Memoryless) (request : Request) :
    right.reply request = left.reply request := by
  obtain ⟨hleft, hright, heq⟩ := h
  -- requests go to the network from both contexts, or to one transport
  cases service with
  | none =>
    rw [Option.map_eq_none_iff] at hleft hright
    have hconfig : right.config = left.config := by rw [heq]
    rw [reply, reply, hleft, hright, hconfig]
  | some transport =>
    have hmemoryless := hservice transport rfl
    obtain ⟨first, hfirst, hfirstEq⟩ := Option.map_eq_some_iff.1 hleft
    obtain ⟨second, hsecond, hsecondEq⟩ := Option.map_eq_some_iff.1 hright
    rw [reply, reply, hfirst, hsecond]
    show second.transport.answer second.handed request = first.transport.answer first.handed request
    rw [hfirstEq, hsecondEq, hmemoryless second.handed, hmemoryless first.handed]

theorem handOver (h : Alike service left right)
    (hservice : ∀ transport ∈ service, transport.Memoryless) (request : Request) :
    Ended.Alike service (left.handOver request) (right.handOver request) := by
  have hreply := h.reply_eq hservice request
  obtain ⟨hleft, hright, heq⟩ := h
  have hkept : ∀ connection : Option Connection,
      (connection.map (·.after request)).map (·.transport) = connection.map (·.transport) :=
    fun connection => by rw [Option.map_map]; rfl
  have hevents : (right.connection.map fun _ => Event.request request)
      = left.connection.map fun _ => Event.request request := by
    have hboth := congrArg (Option.map fun _ => Event.request request) (hright.trans hleft.symm)
    rwa [Option.map_map, Option.map_map] at hboth
  rw [Context.handOver, Context.handOver, hreply, hevents]
  refine .ok ⟨(hkept _).trans hleft, (hkept _).trans hright, ?_⟩
  rw [heq]

end Context.Alike

/-- A step that keeps the service does the same in contexts that are alike. -/
theorem Effect.KeepsService.alike {effect : Effect} (h : effect.KeepsService)
    (hservice : ∀ transport ∈ service, transport.Memoryless)
    (halike : Context.Alike service left right) :
    Ended.Alike service (effect.perform.run left) (effect.perform.run right) := by
  cases effect with
  | transport installed => cases h.2
  | custom callback => exact absurd rfl h.1
  | exchange =>
    show Ended.Alike service (Attempt.exchange.run left) (Attempt.exchange.run right)
    by_cases hmethod : left.request.method = none
    · rw [Attempt.run_exchange_of_no_method hmethod,
        Attempt.run_exchange_of_no_method (halike.method_eq.trans hmethod)]
      exact .ok halike
    · have hmethod' : right.request.method ≠ none := halike.method_eq.trans_ne hmethod
      rw [Attempt.run_exchange hmethod, Attempt.run_exchange hmethod', halike.resolvedRequest_eq]
      exact halike.handOver hservice _
  | check test =>
    rw [Attempt.run_check, Attempt.run_check, halike.response_eq]
    exact .ok halike
  | target | baseUrl | description | body | json | header =>
    obtain ⟨hleft, hright, heq⟩ := halike
    rw [heq]
    exact .ok ⟨hleft, hright, rfl⟩

theorem Step.KeepsService.alike {step : Step} (h : step.KeepsService)
    (hservice : ∀ transport ∈ service, transport.Memoryless)
    (halike : Context.Alike service left right) :
    Ended.Alike service (step.perform.run left) (step.perform.run right) := by
  unfold Step.perform
  split
  next effect haction => exact (h effect haction).alike hservice halike
  next => exact .ok halike
  next => exact .ok halike

namespace Pipeline

/-- Step by step, two runs over a service without memory stay side by side. -/
theorem alike_execute {steps : List Step} (hsteps : ∀ step ∈ steps, step.KeepsService)
    (hservice : ∀ transport ∈ service, transport.Memoryless)
    (halike : Context.Alike service left right) :
    Ended.Alike service (execute steps left) (execute steps right) := by
  induction steps generalizing left right with
  | nil => exact .ok halike
  | cons step steps ih =>
    obtain ⟨hstep, hrest⟩ := List.forall_mem_cons.1 hsteps
    have hends := hstep.alike hservice (halike.enter step.call)
    rw [execute_cons, execute_cons]
    -- both steps end in the same way, and are closed before that is looked at
    generalize step.perform.run (left.enter step.call) = leftEnd at hends
    generalize step.perform.run (right.enter step.call) = rightEnd at hends
    cases hends with
    | @ok outcome _ _ hafter =>
      have hclosed := hafter.leave
      cases outcome with
      | ok done => exact ih hrest hclosed
      | error cause =>
        cases cause with
        | nested failure => exact .ok hclosed
        | _ =>
          dsimp only
          rw [hclosed.failure_eq]
          exact .ok hclosed

theorem alike_run {steps : List Step} (hsteps : ∀ step ∈ steps, step.KeepsService)
    (hservice : ∀ transport ∈ service, transport.Memoryless)
    (halike : Context.Alike service left right) :
    Ended.Alike service (run steps left) (run steps right) := by
  cases hresolve : resolve steps with
  | error error =>
    obtain ⟨step, cause⟩ := error
    rw [run_of_resolve_error hresolve, run_of_resolve_error hresolve, halike.failure_eq]
    exact .ok halike
  | ok resolved =>
    rw [run_of_resolve_ok hresolve, run_of_resolve_ok hresolve]
    exact alike_execute (fun step hstep => hsteps step (mem_of_mem_resolve hresolve hstep)) hservice
      halike

end Pipeline

/-- Steps that keep the service come to the same outcome whatever it was handed before, and leave it
installed. -/
theorem alike_runOver {steps : List Step} (hsteps : ∀ step ∈ steps, step.KeepsService)
    (hservice : ∀ transport ∈ service, transport.Memoryless) (config : Config)
    {first second : Option Connection} (hfirst : first.map (·.transport) = service)
    (hsecond : second.map (·.transport) = service) :
    Ended.Alike service (runOver first config steps) (runOver second config steps) := by
  have hall : ∀ step ∈ withExchange steps, step.KeepsService := by
    refine List.forall_mem_append.2 ⟨hsteps, List.forall_mem_singleton.2 ?_⟩
    intro effect haction
    cases haction
    exact ⟨nofun, rfl⟩
  exact alike_run hall hservice ⟨hfirst, hsecond, rfl⟩

end HttpTest
