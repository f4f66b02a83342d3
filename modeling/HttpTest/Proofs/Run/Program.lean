import HttpTest.Proofs.Run.Evaluation

/-!
# Programs of callbacks

What a callback can do with the context is limited to the public operations: read it, change the
request or a setting, exchange, run steps and see how that ended, and fail or panic. `Program` is
the syntax of such callbacks, `Program.callback` what they do. A program is handed the failures of the
runs it starts and can end with one of them, but it cannot make one up.
-/

namespace HttpTest

/-- Whether a fault is the failure of a run inside the step. -/
def Fault.isNested : Fault → Bool
  | .nested _ => true
  | _ => false

theorem Fault.isNested_eq_false_iff {fault : Fault} :
    fault.isNested = false ↔ ∀ failure, fault ≠ .nested failure := by
  cases fault with
  | nested failure => exact ⟨nofun, fun h => absurd rfl (h failure)⟩
  | _ => exact ⟨fun _ _ => nofun, fun _ => rfl⟩

/-- A public operation that changes the context and cannot fail. -/
inductive Setting where
  | request (change : Request → Request)
  | baseUrl (url : String)
  | transport (installed : Transport)
  | description (text : String)
  /-- A remark, which stands for what a callback does outside the context. -/
  | note (text : String)

def Setting.perform : Setting → Callback
  | .request change => Attempt.modifyRequest change
  | .baseUrl url => Attempt.setBaseUrl url
  | .transport installed => Attempt.setTransport installed
  | .description text => Attempt.setDescription text
  | .note text => Attempt.note text

/-- The two ways of running steps: inside a run and as a top-level run. -/
inductive RunKind where
  | doSteps
  | topLevel

def RunKind.start : RunKind → List Step → Run (Except Failure Unit)
  | .doSteps => Run.doSteps
  | .topLevel => Run.topLevel

/-- An effect that is no callback. Its checks fail with faults of their own. -/
def Effect.IsBuiltIn : Effect → Prop
  | .check test => ∀ response fault, test response = .error fault → fault.isNested = false
  | .custom _ => False
  | _ => True

/-- A check leaves the context as it is and does not fail with the failure of a run. -/
theorem Effect.exists_run_check {test : Response → Except Fault Unit}
    (h : (Effect.check test).IsBuiltIn) (context : Context) :
    ∃ outcome, (Effect.check test).perform.run context = .ok outcome context ∧
      ∀ failure, outcome ≠ .error (.nested failure) := by
  rw [perform, Attempt.run_bind, Attempt.run_response]
  cases hresponse : context.response? with
  | error fault =>
    refine ⟨.error fault, rfl, fun failure hfailure => ?_⟩
    -- only a missing response fails here
    unfold Context.response? at hresponse
    split at hresponse <;> cases hresponse
    cases hfailure
  | ok response =>
    refine ⟨test response, Attempt.run_ofExcept _ _, fun failure hfailure => ?_⟩
    cases h response _ hfailure

/-- A step that runs no callback. -/
def Step.IsBuiltIn (step : Step) : Prop :=
  ∀ effect, step.action = .run effect → effect.IsBuiltIn

mutual

/-- What a callback does, operation by operation. -/
inductive Program where
  | finish
  | fail (fault : Fault) (own : fault.isNested = false)
  /-- Fails with a failure that a run ended with: the last one that was handed over, or an earlier
  one. Finishes if there is none. -/
  | raise (index : Nat)
  | panic (text : String)
  | look (next : Context → Program)
  | set (setting : Setting) (next : Program)
  | exchange (next : Except Fault Unit → Program)
  | run (kind : RunKind) (steps : List Declaration) (done : Program) (failed : Failure → Program)
  | mustDo (steps : List Declaration) (next : Program)

/-- A step whose callback, if it has one, is a program. -/
inductive Declaration where
  | builtIn (step : Step) (builtIn : step.IsBuiltIn)
  | custom (phase : Phase) (path : Option Path) (program : Program)

end

mutual

/-- The callback of a program that was handed some failures, the last one first. -/
def Program.callback : Program → (held : List Failure) → Callback
  | .finish, _ => pure ()
  | .fail fault _, _ => Attempt.fail fault
  | .raise index, held =>
    match held[index]? with
    | some failure => Attempt.fail (.nested failure)
    | none => pure ()
  | .panic text, _ => ExceptT.lift (throw ⟨text⟩)
  | .look next, held => do (next (← Attempt.context)).callback held
  | .set setting next, held => do
    setting.perform
    next.callback held
  | .exchange next, held => do (next (← ExceptT.lift Attempt.exchange.run)).callback held
  | .run kind steps done failed, held => do
    match ← ExceptT.lift (kind.start (declaredSteps steps held)) with
    | .ok () => done.callback held
    | .error failure => (failed failure).callback (failure :: held)
  | .mustDo steps next, held => do
    Attempt.mustDo (declaredSteps steps held)
    next.callback held

/-- The step of a declaration. Its callback may end with the failures that were handed to the
program around it. -/
def Declaration.step : Declaration → (held : List Failure) → Step
  | .builtIn step _, _ => step
  | .custom phase path program, held => .custom phase path (program.callback held)

def declaredSteps : List Declaration → (held : List Failure) → List Step
  | [], _ => []
  | declaration :: declarations, held =>
    declaration.step held :: declaredSteps declarations held

end

theorem mem_declaredSteps_iff {step : Step} {declarations : List Declaration}
    {held : List Failure} :
    step ∈ declaredSteps declarations held ↔
      ∃ declaration ∈ declarations, step = declaration.step held := by
  induction declarations with
  | nil =>
    rw [declaredSteps]
    exact ⟨fun h => absurd h List.not_mem_nil, fun ⟨_, h, _⟩ => absurd h List.not_mem_nil⟩
  | cons declaration declarations ih =>
    rw [declaredSteps, List.mem_cons, ih]
    constructor
    · rintro (rfl | ⟨other, hother, rfl⟩)
      · exact ⟨declaration, List.mem_cons_self, rfl⟩
      · exact ⟨other, List.mem_cons_of_mem _ hother, rfl⟩
    · rintro ⟨other, hother, rfl⟩
      rcases List.mem_cons.1 hother with rfl | hrest
      · exact .inl rfl
      · exact .inr ⟨other, hrest, rfl⟩

/-! ## What the operations do to a context -/

namespace Setting

def apply : Setting → Context → Context
  | .request change, context => { context with request := change context.request }
  | .baseUrl url, context => { context with baseUrl := some url }
  | .transport installed, context => { context with connection := some (.fresh installed) }
  | .description text, context => { context with description := some text }
  | .note text, context => { context with journal := context.journal ++ [.note text] }

@[simp] theorem frames_apply (setting : Setting) (context : Context) :
    (setting.apply context).frames = context.frames := by
  cases setting <;> rfl

end Setting

namespace Program

variable (held : List Failure) (context : Context)

theorem run_callback_set (setting : Setting) (next : Program) :
    ((set setting next).callback held).run context
      = (next.callback held).run (setting.apply context) := by
  cases setting <;> rfl

theorem run_callback_exchange (next : Except Fault Unit → Program) :
    ((Program.exchange next).callback held).run context =
      match Attempt.exchange.run context with
      | .ok outcome after => ((next outcome).callback held).run after
      | .error reason after => .error reason after := by
  rw [callback, Attempt.run_bind, Attempt.run_lift]
  cases Attempt.exchange.run context <;> rfl

theorem run_callback_run (kind : RunKind) (steps : List Declaration) (done : Program)
    (failed : Failure → Program) :
    ((Program.run kind steps done failed).callback held).run context =
      match kind.start (declaredSteps steps held) context with
      | .ok (.ok ()) after => (done.callback held).run after
      | .ok (.error failure) after => ((failed failure).callback (failure :: held)).run after
      | .error reason after => .error reason after := by
  rw [callback, Attempt.run_bind, Attempt.run_lift]
  cases kind.start (declaredSteps steps held) context with
  | ok outcome after => cases outcome <;> rfl
  | error reason after => rfl

theorem run_callback_mustDo (steps : List Declaration) (next : Program) :
    ((mustDo steps next).callback held).run context =
      match Run.doSteps (declaredSteps steps held) context with
      | .ok (.ok ()) after => (next.callback held).run after
      | .ok (.error failure) after => .error ⟨failure.message⟩ after
      | .error reason after => .error reason after := by
  rw [callback, Attempt.run_bind, Attempt.mustDo, Attempt.run_lift, Run.mustDo_apply]
  cases Run.doSteps (declaredSteps steps held) context with
  | ok outcome after => cases outcome <;> rfl
  | error reason after => rfl

end Program

end HttpTest
