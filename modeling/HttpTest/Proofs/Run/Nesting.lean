import HttpTest.Proofs.Run.Frames

/-!
# Runs inside runs

The steps that are open when something happens inside a run, and the way a failure takes out of it,
are read off the programs of the callbacks and not off the frames (`Pipeline.Reaches`,
`Pipeline.Fails`). The main theorem says that the frames record exactly this.
-/

namespace HttpTest

open Pipeline

/-- The declarations of a run of some kind: a top-level run has the exchange behind them. -/
def RunKind.declared : RunKind → List Declaration → List Declaration
  | .doSteps, declarations => declarations
  | .topLevel, declarations => declarations ++ [.builtIn .exchange Step.exchange_isBuiltIn]

theorem declaredSteps_append (first second : List Declaration) (held : List Failure) :
    declaredSteps (first ++ second) held
      = declaredSteps first held ++ declaredSteps second held := by
  induction first with
  | nil => rfl
  | cons declaration first ih =>
    rw [List.cons_append, declaredSteps, ih, declaredSteps, List.cons_append]

theorem RunKind.start_eq_run (kind : RunKind) (declarations : List Declaration)
    (held : List Failure) :
    kind.start (declaredSteps declarations held)
      = Pipeline.run (declaredSteps (kind.declared declarations) held) := by
  cases kind with
  | doSteps => rfl
  | topLevel =>
    rw [RunKind.declared, declaredSteps_append]
    rfl

inductive Moment where
  /-- A run of declarations starts. Their programs may end with the failures that are held. -/
  | starts (declarations : List Declaration) (held : List Failure)
  /-- A panic comes: of a program itself, or because steps failed that must not. -/
  | panics (reason : Panic)

/-- A program that is started in one context gets to a moment, in another. -/
inductive Program.Reaches : Program → List Failure → Context → Moment → Context → Prop where
  | panic {text : String} {held : List Failure} {context : Context} :
      Reaches (.panic text) held context (.panics ⟨text⟩) context
  | look {next : Context → Program} {held : List Failure} {context last : Context}
      {moment : Moment} :
      Reaches (next context) held context moment last →
      Reaches (.look next) held context moment last
  | set {setting : Setting} {next : Program} {held : List Failure} {context last : Context}
      {moment : Moment} :
      Reaches next held (setting.apply context) moment last →
      Reaches (.set setting next) held context moment last
  | exchange {next : Except Fault Unit → Program} {held : List Failure}
      {context after last : Context} {outcome : Except Fault Unit} {moment : Moment} :
      Attempt.exchange.run context = .ok outcome after →
      Reaches (next outcome) held after moment last →
      Reaches (.exchange next) held context moment last
  | start {kind : RunKind} {steps : List Declaration} {done : Program}
      {failed : Failure → Program} {held : List Failure} {context : Context} :
      Reaches (.run kind steps done failed) held context (.starts (kind.declared steps) held)
        context
  | done {kind : RunKind} {steps : List Declaration} {done : Program}
      {failed : Failure → Program} {held : List Failure} {context after last : Context}
      {moment : Moment} :
      kind.start (declaredSteps steps held) context = .ok (.ok ()) after →
      Reaches done held after moment last →
      Reaches (.run kind steps done failed) held context moment last
  | failed {kind : RunKind} {steps : List Declaration} {done : Program}
      {failed : Failure → Program} {held : List Failure} {context after last : Context}
      {failure : Failure} {moment : Moment} :
      kind.start (declaredSteps steps held) context = .ok (.error failure) after →
      Reaches (failed failure) (failure :: held) after moment last →
      Reaches (.run kind steps done failed) held context moment last
  | mustStart {steps : List Declaration} {next : Program} {held : List Failure}
      {context : Context} :
      Reaches (.mustDo steps next) held context (.starts steps held) context
  | mustDone {steps : List Declaration} {next : Program} {held : List Failure}
      {context after last : Context} {moment : Moment} :
      Run.doSteps (declaredSteps steps held) context = .ok (.ok ()) after →
      Reaches next held after moment last →
      Reaches (.mustDo steps next) held context moment last
  | mustFail {steps : List Declaration} {next : Program} {held : List Failure}
      {context after : Context} {failure : Failure} :
      Run.doSteps (declaredSteps steps held) context = .ok (.error failure) after →
      Reaches (.mustDo steps next) held context (.panics ⟨failure.message⟩) after

namespace Pipeline

/-- A run of declarations gets to a step that is a program, when the steps before it are done. The
program starts in the context in which the step is open. -/
def Opens (declarations : List Declaration) (held : List Failure) (context : Context)
    (call : String) (program : Program) (opened : Context) : Prop :=
  ∃ phase path before after reached,
    .custom phase path program ∈ declarations ∧
    resolve (declaredSteps declarations held)
      = .ok (before ++ (Declaration.custom phase path program).step held :: after) ∧
    execute before context = .ok (.ok ()) reached ∧
    call = ((Declaration.custom phase path program).step held).call ∧
    opened = reached.enter call

/-- A run of declarations that is started in one context gets to a moment, in another. The calls are
those of the steps around it, outermost first. -/
inductive Reaches : List Declaration → List Failure → Context → List String → Moment → Context →
    Prop where
  | start {declarations : List Declaration} {held : List Failure} {context : Context} :
      Reaches declarations held context [] (.starts declarations held) context
  | panic {declarations : List Declaration} {held : List Failure} {context opened last : Context}
      {call : String} {program : Program} {reason : Panic} :
      Opens declarations held context call program opened →
      program.Reaches held opened (.panics reason) last →
      Reaches declarations held context [call] (.panics reason) last
  | inside {declarations inner : List Declaration} {held held' : List Failure}
      {context opened started last : Context} {call : String} {calls : List String}
      {program : Program} {moment : Moment} :
      Opens declarations held context call program opened →
      program.Reaches held opened (.starts inner held') started →
      Reaches inner held' started calls moment last →
      Reaches declarations held context (call :: calls) moment last

/-- A run of declarations fails because of the step `call`, with `cause`. The calls are those of the
steps around it that passed the failure of the run inside them on, outermost first. -/
inductive Fails : List Declaration → List Failure → Context → List String → String → Fault →
    Prop where
  /-- The step is the first usage error of the run. -/
  | usage {declarations : List Declaration} {held : List Failure} {context : Context}
      {step : Step} {cause : Fault} :
      resolve (declaredSteps declarations held) = .error (step, cause) →
      Fails declarations held context [] step.call cause
  /-- The step fails itself, when the steps before it are done. -/
  | step {declarations : List Declaration} {held : List Failure} {context reached left : Context}
      {before after : List Step} {step : Step} {cause : Fault} :
      resolve (declaredSteps declarations held) = .ok (before ++ step :: after) →
      execute before context = .ok (.ok ()) reached →
      step.perform.run (reached.enter step.call) = .ok (.error cause) left →
      (∀ failure, cause ≠ .nested failure) →
      Fails declarations held context [] step.call cause
  /-- A program starts a run that fails, and ends with the failure of that run. -/
  | passedOn {declarations inner : List Declaration} {held held' : List Failure}
      {context opened started stopped left : Context} {call innermost : String}
      {calls : List String} {program : Program} {failure : Failure} {cause : Fault} :
      Opens declarations held context call program opened →
      program.Reaches held opened (.starts inner held') started →
      Pipeline.run (declaredSteps inner held') started = .ok (.error failure) stopped →
      (program.callback held).run opened = .ok (.error (.nested failure)) left →
      Fails inner held' started calls innermost cause →
      Fails declarations held context (call :: calls) innermost cause

end Pipeline

/-! ## The frames at a moment -/

theorem OwnCauses.of_start {kind : RunKind} {steps : List Declaration} {held : List Failure}
    (h : OwnCauses held) {context after : Context} {failure : Failure}
    (hstart : kind.start (declaredSteps steps held) context = .ok (.error failure) after) :
    OwnCauses (failure :: held) :=
  h.cons ((frames_of_start (declaredSteps_restoresFrames steps h) hstart).2 failure rfl)

/-- A program gets to every moment with the frames it was started with. -/
theorem Program.Reaches.frames_eq {program : Program} {held : List Failure}
    {context last : Context} {moment : Moment} (hreach : program.Reaches held context moment last)
    (h : OwnCauses held) :
    last.frames = context.frames ∧
      ∀ inner held', moment = .starts inner held' → OwnCauses held' := by
  induction hreach with
  | panic => exact ⟨rfl, nofun⟩
  | look _ ih => exact ih h
  | @set setting _ _ context _ _ _ ih =>
    exact ⟨(ih h).1.trans (setting.frames_apply context), (ih h).2⟩
  | @exchange _ _ context _ _ _ _ hexchange _ ih =>
    obtain ⟨_, _, hrun, hframes, _⟩ := Attempt.exists_run_exchange context
    rw [hrun] at hexchange
    cases hexchange
    exact ⟨(ih h).1.trans hframes, (ih h).2⟩
  | start =>
    refine ⟨rfl, fun _ _ heq => ?_⟩
    cases heq
    exact h
  | done hstart _ ih =>
    have hframes := (frames_of_start (declaredSteps_restoresFrames _ h) hstart).1
    exact ⟨(ih h).1.trans hframes, (ih h).2⟩
  | failed hstart _ ih =>
    have hframes := (frames_of_start (declaredSteps_restoresFrames _ h) hstart).1
    -- the failure that is handed over is held from here on
    have hheld := h.of_start hstart
    exact ⟨(ih hheld).1.trans hframes, (ih hheld).2⟩
  | mustStart =>
    refine ⟨rfl, fun _ _ heq => ?_⟩
    cases heq
    exact h
  | mustDone hstart _ ih =>
    have hframes := (frames_of_run (declaredSteps_restoresFrames _ h) hstart).1
    exact ⟨(ih h).1.trans hframes, (ih h).2⟩
  | mustFail hstart =>
    exact ⟨(frames_of_run (declaredSteps_restoresFrames _ h) hstart).1, nofun⟩

namespace Pipeline

theorem Opens.frames_eq {declarations : List Declaration} {held : List Failure}
    {context opened : Context} {call : String} {program : Program}
    (hopens : Opens declarations held context call program opened) (h : OwnCauses held) :
    opened.frames = context.frames ++ [call] := by
  obtain ⟨phase, path, before, after, reached, _, hresolve, hbefore, _, rfl⟩ := hopens
  have hsteps : ∀ step ∈ before, RestoresFrames step.perform := fun step hstep =>
    declaredSteps_restoresFrames declarations h step
      (mem_of_mem_resolve hresolve (List.mem_append_left _ hstep))
  rw [Context.enter, (frames_of_execute hsteps hbefore).1]

/-- At every moment inside a run the frames are those before the run and the calls around the
moment. -/
theorem Reaches.frames_eq {declarations : List Declaration} {held : List Failure}
    {context last : Context} {calls : List String} {moment : Moment}
    (hreach : Reaches declarations held context calls moment last) (h : OwnCauses held) :
    last.frames = context.frames ++ calls ∧
      ∀ inner held', moment = .starts inner held' → OwnCauses held' := by
  induction hreach with
  | start =>
    refine ⟨(List.append_nil _).symm, fun _ _ heq => ?_⟩
    cases heq
    exact h
  | panic hopens hprogram =>
    exact ⟨((hprogram.frames_eq h).1).trans (hopens.frames_eq h), nofun⟩
  | inside hopens hprogram _ ih =>
    obtain ⟨hframes, hheld⟩ := hprogram.frames_eq h
    obtain ⟨hlast, hlater⟩ := ih (hheld _ _ rfl)
    refine ⟨?_, hlater⟩
    rw [hlast, hframes, hopens.frames_eq h, List.append_assoc, List.singleton_append]

/-- What a run does when it gets to a program is what the program does. -/
theorem Opens.run_eq {declarations : List Declaration} {held : List Failure}
    {context opened : Context} {call : String} {program : Program}
    (hopens : Opens declarations held context call program opened) :
    (∀ reason last, (program.callback held).run opened = .error reason last →
      Pipeline.run (declaredSteps declarations held) context = .error reason last) ∧
    ∀ failure left, (program.callback held).run opened = .ok (.error (.nested failure)) left →
      Pipeline.run (declaredSteps declarations held) context = .ok (.error failure) left.leave := by
  obtain ⟨phase, path, before, after, reached, _, hresolve, hbefore, rfl, rfl⟩ := hopens
  constructor
  · intro reason last hrun
    rw [run_of_resolve_ok hresolve, execute_append_of_ok hbefore]
    exact execute_cons_of_panic hrun
  · intro failure left hrun
    rw [run_of_resolve_ok hresolve, execute_append_of_ok hbefore]
    exact execute_cons_of_nested hrun

/-! ## Failures that are passed on -/

/-- The outermost run reports the step that failed innermost, the frames before the run and the
calls of the steps around that one. -/
theorem Fails.run_eq {declarations : List Declaration} {held : List Failure} {context : Context}
    {calls : List String} {call : String} {cause : Fault}
    (hfails : Fails declarations held context calls call cause) (h : OwnCauses held) :
    ∃ failure after, Pipeline.run (declaredSteps declarations held) context
        = .ok (.error failure) after ∧
      failure.call = call ∧ failure.frames = context.frames ++ calls ∧ failure.cause = cause := by
  induction hfails with
  | @usage _ _ context step cause hresolve =>
    exact ⟨context.failure step.call cause, context, run_of_resolve_error hresolve context, rfl,
      (List.append_nil _).symm, rfl⟩
  | @step declarations _ context _ left before after step cause hresolve hbefore hperform hown =>
    have hrestores : ∀ other ∈ before ++ step :: after, RestoresFrames other.perform :=
      fun other hother => declaredSteps_restoresFrames declarations h other
        (mem_of_mem_resolve hresolve hother)
    have hrun : execute (before ++ step :: after) context
        = .ok (.error (left.leave.failure step.call cause)) left.leave := by
      rw [execute_append_of_ok hbefore]
      exact execute_cons_of_own hperform hown
    -- the failure is made after the step is closed, so its own call is not among the frames
    refine ⟨_, _, (run_of_resolve_ok hresolve context).trans hrun, rfl, ?_, rfl⟩
    show left.leave.frames = context.frames ++ []
    rw [(frames_of_execute hrestores hrun).1, List.append_nil]
  | passedOn hopens hprogram hinner hcallback _ ih =>
    obtain ⟨hframes, hheld⟩ := hprogram.frames_eq h
    obtain ⟨other, after, hrun, hcall, hcalls, hcause⟩ := ih (hheld _ _ rfl)
    -- the failure that is passed on is the one that the run inside ended with
    rw [hinner] at hrun
    cases hrun
    refine ⟨_, _, hopens.run_eq.2 _ _ hcallback, hcall, ?_, hcause⟩
    rw [hcalls, hframes, hopens.frames_eq h, List.append_assoc, List.singleton_append]

end Pipeline

/-! ## Panics -/

/-- Whether a panic comes at a moment or in the run that starts there, and with which context. -/
def Moment.PanicsWith : Moment → Context → Panic → Context → Prop
  | .starts declarations held, context, reason, last =>
    Pipeline.run (declaredSteps declarations held) context = .error reason last
  | .panics own, context, reason, last => reason = own ∧ last = context

/-- No program goes on after a panic at a moment that it gets to. -/
theorem Program.Reaches.run_eq_panic {program : Program} {held : List Failure}
    {context reached last : Context} {moment : Moment} {reason : Panic}
    (hreach : program.Reaches held context moment reached)
    (h : moment.PanicsWith reached reason last) :
    (program.callback held).run context = .error reason last := by
  induction hreach with
  | panic =>
    obtain ⟨rfl, rfl⟩ := h
    rfl
  | look _ ih => exact ih h
  | set _ ih =>
    rw [run_callback_set]
    exact ih h
  | exchange hexchange _ ih =>
    rw [run_callback_exchange, hexchange]
    exact ih h
  | @start kind steps =>
    rw [run_callback_run, kind.start_eq_run]
    rw [Moment.PanicsWith] at h
    rw [h]
  | done hstart _ ih =>
    rw [run_callback_run, hstart]
    exact ih h
  | failed hstart _ ih =>
    rw [run_callback_run, hstart]
    exact ih h
  | mustStart =>
    rw [run_callback_mustDo, Run.doSteps]
    rw [Moment.PanicsWith] at h
    rw [h]
  | mustDone hstart _ ih =>
    rw [run_callback_mustDo, hstart]
    exact ih h
  | mustFail hstart =>
    obtain ⟨rfl, rfl⟩ := h
    rw [run_callback_mustDo, hstart]

theorem Pipeline.Reaches.run_eq_panic {declarations : List Declaration} {held : List Failure}
    {context reached last : Context} {calls : List String} {moment : Moment} {reason : Panic}
    (hreach : Reaches declarations held context calls moment reached)
    (h : moment.PanicsWith reached reason last) :
    Pipeline.run (declaredSteps declarations held) context = .error reason last := by
  induction hreach with
  | start => exact h
  | panic hopens hprogram => exact hopens.run_eq.1 _ _ (hprogram.run_eq_panic h)
  | inside hopens hprogram _ ih => exact hopens.run_eq.1 _ _ (hprogram.run_eq_panic (ih h))

/-- A program gets to a panic, or to the start of a run that gets to it. -/
def Program.Panics (program : Program) (held : List Failure) (context : Context) (reason : Panic)
    (last : Context) : Prop :=
  program.Reaches held context (.panics reason) last ∨
  ∃ inner held' started calls, program.Reaches held context (.starts inner held') started ∧
    Pipeline.Reaches inner held' started calls (.panics reason) last

theorem Program.Panics.map {program next : Program} {held held' : List Failure}
    {context after last : Context} {reason : Panic} (h : next.Panics held' after reason last)
    (hreach : ∀ moment reached, next.Reaches held' after moment reached →
      program.Reaches held context moment reached) :
    program.Panics held context reason last := by
  rcases h with hown | ⟨inner, heldInner, started, calls, hprogram, hinner⟩
  · exact .inl (hreach _ _ hown)
  · exact .inr ⟨inner, heldInner, started, calls, hreach _ _ hprogram, hinner⟩

/-- All panics of a program are found among the moments it gets to. -/
def Program.ReachesPanics (program : Program) : Prop :=
  ∀ held context reason last, (program.callback held).run context = .error reason last →
    program.Panics held context reason last

theorem Effect.IsBuiltIn.run_ne_panic {effect : Effect} (h : effect.IsBuiltIn) (context : Context)
    (reason : Panic) (last : Context) : effect.perform.run context ≠ .error reason last := by
  cases effect with
  | exchange =>
    obtain ⟨_, _, hrun, _⟩ := Attempt.exists_run_exchange context
    show Attempt.exchange.run context ≠ _
    rw [hrun]
    exact nofun
  | check test =>
    obtain ⟨_, hrun, _⟩ := Effect.exists_run_check h context
    rw [hrun]
    exact nofun
  | custom callback => exact h.elim
  | _ =>
    intro hpanic
    cases hpanic

theorem Step.IsBuiltIn.run_ne_panic {step : Step} (h : step.IsBuiltIn) (context : Context)
    (reason : Panic) (last : Context) : step.perform.run context ≠ .error reason last := by
  unfold Step.perform
  split
  next effect heffect => exact (h effect heffect).run_ne_panic context reason last
  next => exact nofun
  next => exact nofun

/-- A panic of a run of declarations comes at a moment that the run gets to. -/
theorem Pipeline.exists_reaches_of_run_eq_panic {declarations : List Declaration}
    (h : ∀ phase path program, .custom phase path program ∈ declarations → program.ReachesPanics)
    {held : List Failure} {context last : Context} {reason : Panic}
    (hrun : Pipeline.run (declaredSteps declarations held) context = .error reason last) :
    ∃ calls, Reaches declarations held context calls (.panics reason) last := by
  cases hresolve : resolve (declaredSteps declarations held) with
  | error error =>
    rw [run_of_resolve_error hresolve] at hrun
    cases hrun
  | ok resolved =>
    rw [run_of_resolve_ok hresolve] at hrun
    obtain ⟨before, step, rest, reached, rfl, hbefore, hperform⟩ := exists_of_execute_eq_panic hrun
    have hmem : step ∈ declaredSteps declarations held :=
      mem_of_mem_resolve hresolve (List.mem_append_right _ List.mem_cons_self)
    obtain ⟨declaration, hdeclaration, rfl⟩ := mem_declaredSteps_iff.1 hmem
    -- built-in steps do not panic, so it is a program, and the panic is its own or comes from below
    cases declaration with
    | builtIn step builtIn => exact absurd hperform (builtIn.run_ne_panic _ reason last)
    | custom phase path program =>
      have hopens : Opens declarations held context _ program _ :=
        ⟨phase, path, before, rest, reached, hdeclaration, hresolve, hbefore, rfl, rfl⟩
      rcases h phase path program hdeclaration held _ reason last hperform with
        hown | ⟨inner, held', started, calls, hprogram, hinner⟩
      · exact ⟨_, .panic hopens hown⟩
      · exact ⟨_, .inside hopens hprogram hinner⟩

theorem RunKind.mem_of_custom_mem_declared {kind : RunKind} {steps : List Declaration}
    {phase : Phase} {path : Option Path} {program : Program}
    (h : .custom phase path program ∈ kind.declared steps) :
    .custom phase path program ∈ steps := by
  cases kind with
  | doSteps => exact h
  | topLevel =>
    rcases List.mem_append.1 h with hin | hexchange
    · exact hin
    · cases List.mem_singleton.1 hexchange

theorem Pipeline.exists_reaches_of_start_eq_panic {kind : RunKind} {steps : List Declaration}
    (h : ∀ phase path program, .custom phase path program ∈ steps → program.ReachesPanics)
    {held : List Failure} {context last : Context} {reason : Panic}
    (hstart : kind.start (declaredSteps steps held) context = .error reason last) :
    ∃ calls, Reaches (kind.declared steps) held context calls (.panics reason) last := by
  rw [kind.start_eq_run] at hstart
  refine exists_reaches_of_run_eq_panic (fun phase path program hmem => ?_) hstart
  exact h phase path program (RunKind.mem_of_custom_mem_declared hmem)

mutual

theorem Program.reachesPanics : ∀ program : Program, program.ReachesPanics
  | .finish => by
    intro held context reason last hrun
    cases hrun
  | .fail _ _ => by
    intro held context reason last hrun
    cases hrun
  | .raise index => by
    intro held context reason last hrun
    rw [Program.callback] at hrun
    split at hrun <;> cases hrun
  | .panic _ => by
    intro held context reason last hrun
    cases hrun
    exact .inl .panic
  | .look next => by
    intro held context reason last hrun
    have hnext := (next context).reachesPanics held context reason last hrun
    exact hnext.map fun _ _ => .look
  | .set setting next => by
    intro held context reason last hrun
    rw [Program.run_callback_set] at hrun
    have hnext := next.reachesPanics held _ reason last hrun
    exact hnext.map fun _ _ => .set
  | .exchange next => by
    intro held context reason last hrun
    obtain ⟨outcome, after, hexchange, _⟩ := Attempt.exists_run_exchange context
    rw [Program.run_callback_exchange, hexchange] at hrun
    have hnext := (next outcome).reachesPanics held after reason last hrun
    exact hnext.map fun _ _ => .exchange hexchange
  | .run kind steps done failed => by
    intro held context reason last hrun
    have hsteps := reachesPanics_of_custom_mem steps
    rw [Program.run_callback_run] at hrun
    cases hstart : kind.start (declaredSteps steps held) context with
    | error other left =>
      rw [hstart] at hrun
      cases hrun
      -- no program catches the panic of a run that it started
      obtain ⟨calls, hinner⟩ := exists_reaches_of_start_eq_panic hsteps hstart
      exact .inr ⟨_, _, _, calls, .start, hinner⟩
    | ok result left =>
      rw [hstart] at hrun
      cases result with
      | ok _ =>
        have hnext := done.reachesPanics held left reason last hrun
        exact hnext.map fun _ _ => .done hstart
      | error failure =>
        have hnext := (failed failure).reachesPanics (failure :: held) left reason last hrun
        exact hnext.map fun _ _ => .failed hstart
  | .mustDo steps next => by
    intro held context reason last hrun
    have hsteps := reachesPanics_of_custom_mem steps
    rw [Program.run_callback_mustDo] at hrun
    cases hstart : Run.doSteps (declaredSteps steps held) context with
    | error other left =>
      rw [hstart] at hrun
      cases hrun
      obtain ⟨calls, hinner⟩ := exists_reaches_of_run_eq_panic hsteps hstart
      exact .inr ⟨_, _, _, calls, .mustStart, hinner⟩
    | ok result left =>
      rw [hstart] at hrun
      cases result with
      | ok _ =>
        have hnext := next.reachesPanics held left reason last hrun
        exact hnext.map fun _ _ => .mustDone hstart
      | error failure =>
        cases hrun
        exact .inl (.mustFail hstart)

theorem Declaration.reachesPanics : ∀ declaration : Declaration, ∀ phase path program,
    declaration = .custom phase path program → program.ReachesPanics
  | .builtIn _ _, _, _, _ => nofun
  | .custom _ _ program, _, _, _ => fun heq => by
    have hprogram := program.reachesPanics
    cases heq
    exact hprogram

theorem reachesPanics_of_custom_mem : ∀ declarations : List Declaration, ∀ phase path program,
    .custom phase path program ∈ declarations → program.ReachesPanics
  | [], _, _, _ => nofun
  | declaration :: declarations, phase, path, program => fun h => by
    rcases List.mem_cons.1 h with heq | hrest
    · exact declaration.reachesPanics phase path program heq.symm
    · exact reachesPanics_of_custom_mem declarations phase path program hrest

end

/-! ## The frames of runs inside runs -/

/-- Programs that run steps inside steps, to any depth, keep the frames in order. A run that ends
leaves the frames it was given. A failure that is passed on out of every step around it names the
step that failed innermost, and its frames are those before the run and the calls of the steps that
passed it on. No run reports the failure of a run as a cause. A panic, of a program or because steps
failed that must not, leaves the frames before the run and the calls of the steps that are open. -/
theorem frames_of_nested_runs (kind : RunKind) (declarations : List Declaration)
    (context : Context) :
    (∀ outcome after, kind.start (declaredSteps declarations []) context = .ok outcome after →
      after.frames = context.frames) ∧
    (∀ calls call cause, Fails (kind.declared declarations) [] context calls call cause →
      ∃ failure after, kind.start (declaredSteps declarations []) context
          = .ok (.error failure) after ∧
        failure.call = call ∧ failure.frames = context.frames ++ calls ∧ failure.cause = cause) ∧
    (∀ calls inner held started failure after,
      Reaches (kind.declared declarations) [] context calls (.starts inner held) started →
      Pipeline.run (declaredSteps inner held) started = .ok (.error failure) after →
        ∀ nested, failure.cause ≠ .nested nested) ∧
    (∀ reason after, kind.start (declaredSteps declarations []) context = .error reason after ↔
      ∃ calls, Reaches (kind.declared declarations) [] context calls (.panics reason) after) ∧
    ∀ calls reason after,
      Reaches (kind.declared declarations) [] context calls (.panics reason) after →
        after.frames = context.frames ++ calls := by
  have hheld : OwnCauses [] := nofun
  refine ⟨fun outcome after hstart => ?_, fun calls call cause hfails => ?_,
    fun calls inner held started failure after hreach hrun nested => ?_,
    fun reason after => ⟨fun hstart => ?_, fun ⟨calls, hreach⟩ => ?_⟩,
    fun calls reason after hreach => (hreach.frames_eq hheld).1⟩
  · exact (frames_of_start (declaredSteps_restoresFrames declarations hheld) hstart).1
  · rw [kind.start_eq_run]
    exact hfails.run_eq hheld
  · -- the failures that are held when the run inside starts have causes of their own
    have hinner := (hreach.frames_eq hheld).2 inner held rfl
    have hcause := (frames_of_run (declaredSteps_restoresFrames inner hinner) hrun).2 failure rfl
    exact Fault.isNested_eq_false_iff.1 hcause nested
  · exact exists_reaches_of_start_eq_panic (reachesPanics_of_custom_mem declarations) hstart
  · rw [kind.start_eq_run]
    exact hreach.run_eq_panic ⟨rfl, rfl⟩

end HttpTest
