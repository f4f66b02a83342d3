import HttpTest.Chain.Clear
import HttpTest.Chain.Expect
import HttpTest.Chain.Send
import HttpTest.Chain.Setup
import HttpTest.Proofs.Run.Program

/-!
# The steps that chains declare

A chain declares a built-in step or a step with the callback it was given. So the declarations that
programs of callbacks are made of leave out nothing that can be declared.
-/

namespace HttpTest

def Step.IsDeclared (step : Step) : Prop :=
  step.IsBuiltIn ∨ ∃ phase path callback, step = .custom phase path callback

/-! ## The faults of built-in checks -/

theorem Check.isNested_of_toFault {check : Check} {fault : Fault}
    (h : check.toFault = .error fault) : fault.isNested = false := by
  cases check with
  | ok done => cases h
  | error mismatch =>
    cases h
    cases mismatch <;> rfl

theorem Response.isNested_of_document {response : Response} {fault : Fault}
    (h : response.document = .error fault) : fault.isNested = false := by
  unfold document at h
  split at h <;> cases h
  rfl

theorem Response.isNested_of_bodyFor {response : Response} {expected : Value} {fault : Fault}
    (h : response.bodyFor expected = .error fault) : fault.isNested = false := by
  unfold bodyFor at h
  split at h
  · exact isNested_of_document h
  · cases h

namespace Assertion

variable (assertion : Assertion) (response : Response) (fault : Fault)

theorem isNested_of_checkBody (h : assertion.checkBody response = .error fault) :
    fault.isNested = false := by
  unfold checkBody at h
  split at h
  · split at h
    · exact Check.isNested_of_toFault h
    · cases h
      exact Response.isNested_of_bodyFor ‹_›
  · split at h
    · exact Check.isNested_of_toFault h
    · cases h
      exact Response.isNested_of_bodyFor ‹_›
  · exact Check.isNested_of_toFault h

theorem isNested_of_checkDocument (expression : String)
    (h : assertion.checkDocument expression response = .error fault) :
    fault.isNested = false := by
  unfold checkDocument at h
  split at h
  · exact Check.isNested_of_toFault h
  · cases h
    exact Response.isNested_of_document ‹_›

theorem isNested_of_checkHeaders (name : Option String)
    (h : assertion.checkHeaders name response = .error fault) : fault.isNested = false :=
  Check.isNested_of_toFault h

theorem isNested_of_checkStatus (h : assertion.checkStatus response = .error fault) :
    fault.isNested = false :=
  Check.isNested_of_toFault h

end Assertion

/-! ## The steps of stages -/

namespace Stage

variable (stage : Stage) (phase : Phase)

theorem isBuiltIn_stepWith {action : Action}
    (h : ∀ effect, action = .run effect → effect.IsBuiltIn) :
    (stage.stepWith phase action).IsBuiltIn := by
  unfold stepWith
  split
  · intro effect heffect
    cases heffect
  · exact h

theorem isDeclared_step {effect : Effect} (h : effect.IsBuiltIn) :
    (stage.step phase effect).IsDeclared := by
  refine .inl (stage.isBuiltIn_stepWith phase fun other hother => ?_)
  cases hother
  exact h

theorem isDeclared_fail (misuse : Misuse) : (stage.fail phase misuse).IsDeclared :=
  .inl (stage.isBuiltIn_stepWith phase nofun)

/-- A misused chain drops the callback that it was given. -/
theorem isDeclared_custom (callback : Callback) :
    (stage.step phase (.custom callback)).IsDeclared := by
  unfold step stepWith
  cases stage.misuse with
  | none => exact .inr ⟨phase, some stage.path, callback, rfl⟩
  | some misuse => exact .inl nofun

end Stage

/-! ## The steps of chains -/

theorem SetupCall.isDeclared_step (call : SetupCall) : call.step.IsDeclared := by
  cases call with
  | cleanup callback => exact Stage.isDeclared_custom _ _ callback
  | _ => exact Stage.isDeclared_step _ _ trivial

theorem SendChain.isDeclared_step {place : SendPlace} (chain : SendChain place) :
    chain.step.IsDeclared := by
  cases chain with
  | send => exact Stage.isDeclared_fail _ _ _
  | body chain => exact Stage.isDeclared_fail _ _ _
  | custom chain callback => exact Stage.isDeclared_custom _ _ callback
  | _ => exact Stage.isDeclared_step _ _ trivial

theorem ExpectChain.isDeclared_step {place : ExpectPlace} (chain : ExpectChain place) :
    chain.step.IsDeclared := by
  have hbody : ∀ assertion : Assertion, (Effect.check assertion.checkBody).IsBuiltIn :=
    Assertion.isNested_of_checkBody
  have hdocument : ∀ (assertion : Assertion) (expression : String),
      (Effect.check (assertion.checkDocument expression)).IsBuiltIn :=
    fun assertion expression response fault =>
      assertion.isNested_of_checkDocument response fault expression
  have hheaders : ∀ (assertion : Assertion) (name : Option String),
      (Effect.check (assertion.checkHeaders name)).IsBuiltIn :=
    fun assertion name response fault => assertion.isNested_of_checkHeaders response fault name
  have hstatus : ∀ assertion : Assertion, (Effect.check assertion.checkStatus).IsBuiltIn :=
    Assertion.isNested_of_checkStatus
  cases chain with
  | expectValue value => exact Stage.isDeclared_step _ _ (hbody _)
  | bodyValue chain value => exact Stage.isDeclared_step _ _ (hbody _)
  | interface chain value => exact Stage.isDeclared_step _ _ (hbody _)
  | bodyIs chain assertion supported => exact Stage.isDeclared_step _ _ (hbody _)
  | jsonValue chain value => exact Stage.isDeclared_step _ _ (hdocument _ _)
  | jsonIs chain expression assertion supported =>
    exact Stage.isDeclared_step _ _ (hdocument _ _)
  | headerIs chain assertion => exact Stage.isDeclared_step _ _ (hheaders _ _)
  | headersAre chain assertion => exact Stage.isDeclared_step _ _ (hheaders _ _)
  | statusValue chain code => exact Stage.isDeclared_step _ _ (hstatus _)
  | statusIs chain assertion supported => exact Stage.isDeclared_step _ _ (hstatus _)
  | custom chain callback => exact Stage.isDeclared_custom _ _ callback
  | _ => exact Stage.isDeclared_fail _ _ _

theorem ClearChain.isDeclared_step {place : ClearPlace} (chain : ClearChain place) :
    chain.step.IsDeclared := by
  unfold step
  split
  · exact Stage.isDeclared_fail _ _ _
  · exact .inl (Stage.isBuiltIn_stepWith _ _ nofun)

end HttpTest
