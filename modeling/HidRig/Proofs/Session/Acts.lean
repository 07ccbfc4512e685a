import HidRig.Proofs.Session.Call

/-! # What happens while native code runs

A run is recorded as a list of acts. A call that native code makes of another module is one act,
with the acts of that call inside, so that the record of a run is a tree of calls.

* `Act`: one entry of the record, with the state before it.
* `Native.acts`, `Script.acts`: the record of a run.
* `Session.callActs`: the record of the native code of a call.
* `Session.acts`, `Session.actsAll`: the record of a step and of a whole session.
-/

namespace HidRig

/-- Something that happened while native code ran, with the state before it. -/
inductive Act where
  | served (before : Rig) (frame : Frame) (service : Service)
  /-- A table was installed in a file, outside of its calls. -/
  | installed (before : Rig) (file : FileId) (table : ServiceTable)
  /-- A module was called, and its native code ran. -/
  | called (before : Rig) (module : TestModule) (call : Call) (acts : List Act)
  /-- Code ran outside of any call. -/
  | ran (before : Rig) (acts : List Act)
  | threaded (before : Rig) (acts : List Act)

def Act.before : Act → Rig
  | served before .. => before
  | installed before .. => before
  | called before .. => before
  | ran before _ => before
  | threaded before _ => before

/-- A way to record the run of a script. -/
abbrev Tracer := Frame → Session → List Act

/-- The record of a program of native code. -/
def Native.acts {α : Type} : Native α → Frame → Rig → List Act
  | done _, _, _ => []
  | call service next, frame, rig =>
    let (reply, frame', rig') := rig.serve frame service
    .served rig frame service :: (next reply).acts frame' rig'

namespace Session

/-- The record of the code behind an entry point. -/
def entryActs (session : Session) (entry : EntryPoint) (script : Option Tracer) (frame : Frame) :
    List Act :=
  match entry, script with
  | .code body, _ => body.acts frame session.rig
  | .scripted, some script => script frame session
  | _, _ => []

/-- The module with a handle, unless a call of it is running. -/
def idle? (session : Session) (handle : String) : Option TestModule :=
  (session.module? handle).filter fun module => !session.isRunning module

def tracedCall (session : Session) (module : TestModule) (call : Call) (script : Option Tracer) :
    Act :=
  .called session.rig module call
    ((session.begun module call).entryActs (call.entry module) script
      (call.start module session.rig).1)

/-- The record of a step. A step that runs no native code and installs no table leaves none. -/
def tracedStep (session : Session) (step : Step) (script : Option Tracer) : List Act :=
  match step with
  | .probe handle args =>
    (session.idle? handle).toList.flatMap fun module =>
      args.toList.map fun args => session.tracedCall module (.probe args) script
  | .hook handle role data options =>
    (session.idle? handle).toList.flatMap fun module =>
      match module.prepare role data with
      | .error _ => []
      | .ok (payload, entry) =>
        [session.tracedCall module (.hook role payload entry (options.getD {})) script]
  | .install handle data =>
    (session.idle? handle).toList.flatMap fun module =>
      [.installed session.rig module.file (session.rig.bareTable data).1]
  | .direct handle =>
    (session.module? handle).toList.flatMap fun module =>
      script.toList.map fun script => .ran session.rig (script ⟨module.file, none, none⟩ session)
  | _ => []

/-- The record of looking up a name. A foreign context is made by the code that names it. -/
def lookUpActs (session : Session) (frame : Frame) : ContextName → List Act
  | .foreign => [.served session.rig frame (.ownContext (.forIndex foreignIndex))]
  | _ => []

end Session

/-- The record of a script. -/
def Script.acts : Script → Frame → Session → List Act
  | .exit _, _, _ => []
  | .call service next, frame, session =>
    let (reply, frame', rig) := session.rig.serve frame service
    .served session.rig frame service :: (next reply).acts frame' { session with rig }
  | .note _ next, frame, session => next.acts frame session
  | .step taken next, frame, session =>
    let (outcome, session') := session.perform taken none
    session.tracedStep taken none ++ (next outcome).acts frame session'
  | .stepWith taken body next, frame, session =>
    let (outcome, session') := session.perform taken (some body.run)
    session.tracedStep taken (some body.acts) ++ (next outcome).acts frame session'
  | .thread body next, frame, session =>
    let finish := body.run frame session.onThread
    .threaded session.rig (body.acts frame session.onThread) ::
      (next finish.trace).acts finish.frame (session.backFrom finish.session)
  | .lookUp name next, frame, session =>
    let (found, session') := session.lookUp frame.given name
    session.lookUpActs frame name ++ (next found).acts frame session'
  | .bindName name id next, frame, session => next.acts frame (session.bindName name id)
  | .markReleased id next, frame, session => next.acts frame (session.markReleased id)

namespace Session

/-- The record of the native code of a call. -/
def callActs (session : Session) (module : TestModule) (call : Call) (script : Option Script) :
    List Act :=
  (session.begun module call).entryActs (call.entry module) (script.map Script.acts)
    (call.start module session.rig).1

/-- The record of a step with its script. -/
def acts (session : Session) (step : Step) (script : Option Script) : List Act :=
  session.tracedStep step (script.map Script.acts)

def afterAll (session : Session) : List (Step × Option Script) → Session
  | [] => session
  | (step, script) :: steps => (session.take step script).2.afterAll steps

/-- The record of some steps. -/
def actsAll (session : Session) : List (Step × Option Script) → List Act
  | [] => []
  | (step, script) :: steps =>
    session.quiet.acts step script ++ (session.take step script).2.actsAll steps

/-! ## Ways to a call

A list that is made on the way to a call is related to the session after it, if it is where the call
is refused and where it is made. -/

section Ways
variable {α : Type} (session : Session) (related : List α → Session → Prop)
  (refused : related [] session)
include refused

theorem of_withModule {handle : String} {go : TestModule → Outcome × Session}
    {inner : TestModule → List α} (h : ∀ module, related (inner module) (go module).2) :
    related ((session.module? handle).toList.flatMap inner) (session.withModule handle go).2 := by
  unfold withModule
  cases session.module? handle with
  | none => exact refused
  | some module => simpa using h module

theorem of_withIdle {handle : String} {locks : TestModule → Bool}
    {go : TestModule → Outcome × Session} {inner : TestModule → List α}
    (h : ∀ module, related (inner module) (go module).2)
    (free : ∀ module, locks module = false → inner module = []) :
    related ((session.idle? handle).toList.flatMap inner) (session.withIdle handle locks go).2 := by
  unfold withIdle withModule idle?
  cases session.module? handle with
  | none => exact refused
  | some module =>
    cases hr : session.isRunning module with
    | false => simpa [Option.filter, hr] using h module
    | true =>
      cases hl : locks module with
      | true => simpa [Option.filter, hr, hl, reply] using refused
      | false =>
        -- what takes no lock is done while a call runs, and leaves nothing on the list
        have none := h module
        rw [free module hl] at none
        simpa [Option.filter, hr, hl] using none

theorem of_hook (handle : String) (role : Role) (data : Option Bytes)
    (options : Option InvokeOptions) (script : Option Script) {inner : TestModule → Call → List α}
    (h : ∀ module call, related (inner module call) (session.called module call script)) :
    related
      ((session.idle? handle).toList.flatMap fun module =>
        match module.prepare role data with
        | .error _ => []
        | .ok (payload, entry) => inner module (.hook role payload entry (options.getD {})))
      (session.perform (.hook handle role data options) (script.map Script.run)).2 := by
  refine session.of_withIdle related refused (fun module => ?_) fun module free => ?_
  · cases prepared : module.prepare role data with
    | error fault =>
      simp only [hook, prepared]
      exact refused
    | ok found =>
      rw [session.hook_eq module role data (options.getD {}) script prepared]
      exact h module _
  · cases prepared : module.prepare role data with
    | error fault => rfl
    | ok found => simp [Step.locks, prepared, Except.isOk, Except.toBool] at free

end Ways

end Session

end HidRig
