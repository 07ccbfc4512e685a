import HidRig.Proofs.Session.Acts

/-! # Running calls

A call is left before the code that made it goes on, so that a step leaves the running calls as they
were, and none is running between the steps of a session.

* `Session.running_perform`, `Script.running_run`: a step and a script.
* `Session.running_afterAll`: a session.
-/

namespace HidRig

/-- The runs of a script, if there is one, leave all calls that they make. -/
def Leaving (script : Option Script) : Prop :=
  ∀ body, script = some body → ∀ frame session,
    (body.run frame session).session.running = session.running

namespace Session

section Ways
variable (session : Session) {handle : String} {go : TestModule → Outcome × Session}

theorem running_withCache {ref : CacheRef} {go : ModuleCache → Outcome × Session}
    (h : ∀ cache, (go cache).2.running = session.running) :
    (session.withCache ref go).2.running = session.running := by
  unfold withCache
  split
  · rfl
  · exact h _

theorem running_withModule (h : ∀ module, (go module).2.running = session.running) :
    (session.withModule handle go).2.running = session.running := by
  unfold withModule
  split
  · rfl
  · exact h _

theorem running_withIdle (locks : TestModule → Bool)
    (h : ∀ module, (go module).2.running = session.running) :
    (session.withIdle handle locks go).2.running = session.running := by
  refine session.running_withModule fun module => ?_
  split
  · rfl
  · exact h module

end Ways

variable {script : Option Script} (hs : Leaving script) (session : Session)
include hs

theorem running_runEntry (entry : EntryPoint) (frame : Frame) :
    (session.runEntry entry (script.map Script.run) frame).session.running = session.running := by
  cases entry with
  | code body => rfl
  | helper => rfl
  | scripted =>
    cases script with
    | none => rfl
    | some body => exact hs body rfl frame session

theorem running_called (module : TestModule) (call : Call) :
    (session.called module call script).running = session.running := by
  have ended := (session.begun module call).running_runEntry hs (call.entry module)
    (call.start module session.rig).1
  exact congrArg List.tail ended

theorem running_direct (module : TestModule) :
    (session.direct module (script.map Script.run)).2.running = session.running := by
  cases script with
  | none => rfl
  | some body => exact hs body rfl _ session

theorem running_hook (module : TestModule) (role : Role) (data : Option Bytes)
    (options : InvokeOptions) :
    (session.hook module role data options (script.map Script.run)).2.2.running =
      session.running := by
  cases prepared : module.prepare role data with
  | error fault => simp only [hook, prepared]
  | ok started =>
    rw [session.hook_eq module role data options script prepared]
    exact session.running_called hs module _

/-- A step leaves the calls running that were. -/
theorem running_perform (step : Step) :
    (session.perform step (script.map Script.run)).2.running = session.running := by
  cases step with
  | make items | remove path => rfl
  | load ref name handle | require ref name handle =>
    refine session.running_withCache fun cache => ?_
    unfold load
    dsimp only
    cases (cache.load session.disk session.loader name).1 <;> rfl
  | inspect ref names => exact session.running_withCache fun _ => rfl
  | describe handle => exact session.running_withModule fun _ => rfl
  | probe handle args =>
    refine session.running_withIdle _ fun module => ?_
    cases args with
    | none => rfl
    | some args => exact session.running_called hs module (.probe args)
  | hook handle role data options =>
    exact session.running_withIdle _ fun module => session.running_hook hs module role data _
  | install handle data =>
    refine session.running_withIdle _ fun module => ?_
    cases data <;> rfl
  | direct handle => exact session.running_withModule fun module => session.running_direct hs module

end Session

/-- A script leaves the calls running that were. -/
theorem Script.running_run : ∀ (script : Script) (frame : Frame) (session : Session),
    (script.run frame session).session.running = session.running
  | .exit _, _, _ => rfl
  | .call _ next, _, _ => (next _).running_run _ _
  | .note _ next, frame, session => next.running_run frame session
  | .step taken next, frame, session => by
    have hs : Leaving none := nofun
    exact ((next _).running_run frame _).trans (session.running_perform hs taken)
  | .stepWith taken body next, frame, session => by
    have hs : Leaving (some body) := by
      rintro _ ⟨⟩
      exact body.running_run
    exact ((next _).running_run frame _).trans (session.running_perform hs taken)
  | .thread body next, frame, session =>
    ((next _).running_run _ _).trans (body.running_run frame session.onThread)
  | .lookUp name next, frame, session => by
    have kept : (session.lookUp frame.given name).2.running = session.running := by
      cases name <;> rfl
    exact ((next _).running_run frame _).trans kept
  | .bindName name id next, frame, session => next.running_run frame (session.bindName name id)
  | .markReleased id next, frame, session => next.running_run frame (session.markReleased id)

namespace Session

theorem running_take (session : Session) (step : Step) (script : Option Script) :
    (session.take step script).2.running = session.running :=
  session.quiet.running_perform (fun body _ => body.running_run) step

/-- No call is running between the steps of a session. -/
theorem running_afterAll (session : Session) (steps : List (Step × Option Script)) :
    (session.afterAll steps).running = session.running := by
  induction steps generalizing session with
  | nil => rfl
  | cons taken rest ih => exact (ih _).trans (session.running_take taken.1 taken.2)

end Session

end HidRig
