import HidRig.Session.Script

/-! # Taking a step

A step is taken with a `Runner` for the script that it brings, if it brings one. So scripts and
steps need not be defined together.

* `Session.runEntry`: the code behind an entry point.
* `Session.perform`: a whole step.
-/

namespace HidRig

structure Finish where
  code : Int32
  trace : List Note
  frame : Frame
  session : Session

/-- A way to run a script in given surroundings. -/
abbrev Runner := Frame → Session → Finish

/-- Whether a step takes the lock of its module. A call that is refused before any code runs does
not. -/
def Step.locks : Step → TestModule → Bool
  | .probe _ args, _ => args.isSome
  | .hook _ role data _, module => (module.prepare role data).isOk
  | .install .., _ => true
  | _, _ => false

namespace Session

/-- How an entry point ended: its code, the trace of its script if it ran one, and the state. -/
structure EntryFinish where
  code : Int32
  trace : Option (List Note)
  frame : Frame
  session : Session

/-- Runs the code behind an entry point. Without a script a scripted entry point does nothing. -/
def runEntry (session : Session) (entry : EntryPoint) (script : Option Runner) (frame : Frame) :
    EntryFinish :=
  match entry, script with
  | .code body, _ =>
    let (code, frame, rig) := body.run frame session.rig
    ⟨code, none, frame, { session with rig }⟩
  | .scripted, some script =>
    let finish := script frame session
    ⟨finish.code, some finish.trace, finish.frame, finish.session⟩
  | _, _ => ⟨0, none, frame, session⟩

/-! ## Calls -/

def probe (session : Session) (module : TestModule) (args : ProbeArgs) (script : Option Runner) :
    Except InvocationFault ProbeArgs × Option (List Note) × Session :=
  let (frame, rig) := ProbeCall.start module args session.rig
  let finish := ({ session with rig }.enter module).runEntry module.probe script frame
  let (outcome, rig) := ProbeCall.finish module finish.code finish.frame finish.session.rig
  (outcome, finish.trace, { finish.session.leave with rig })

/-- Calls the hook of a role. A call that is refused changes nothing. -/
def hook (session : Session) (module : TestModule) (role : Role) (data : Option Bytes)
    (options : InvokeOptions) (script : Option Runner) :
    Except InvocationFault Invocation × Option (List Note) × Session :=
  match module.prepare role data with
  | .error fault => (.error fault, none, session)
  | .ok (payload, entry) =>
    let (call, frame, rig) := HookCall.start module role payload options session.rig
    let finish := ({ session with rig }.enter module).runEntry entry script frame
    let (outcome, rig) := HookCall.finish module call finish.code finish.session.rig
    (outcome, finish.trace, { finish.session.leave with rig })

/-- Installs a table without functions, over a buffer of its own if data are given. -/
def install (session : Session) (module : TestModule) (data : Option Bytes) : Bool × Session :=
  let (table, rig) := session.rig.bareTable data
  (table.hasData, { session with rig := rig.setTable module.file table })

/-- Runs a script of a module outside of any call. -/
def direct (session : Session) (module : TestModule) (script : Option Runner) :
    List Note × Session :=
  match script with
  | none => ([], session)
  | some script =>
    let finish := script ⟨module.file, none, none⟩ session
    (finish.trace, finish.session)

/-! ## Loading -/

/-- Loads a module into a cache, and gives it a handle. -/
def load (session : Session) (ref : CacheRef) (cache : ModuleCache) (name handle : String) :
    Except LoadFault TestModule × Session :=
  let (loaded, events, cache, loader) := cache.load session.disk session.loader name
  let session := { session with loader, rig := session.rig.reportAll events }.setCache ref cache
  match loaded with
  | .error fault => (.error fault, session)
  | .ok module => (.ok module, { session with handles := (handle, module) :: session.handles })

/-! ## Steps -/

def reply (session : Session) (answer : Answer) : Outcome × Session :=
  (⟨answer, none⟩, session)

/-- Goes on with a cache, if the session has it. -/
def withCache (session : Session) (ref : CacheRef) (go : ModuleCache → Outcome × Session) :
    Outcome × Session :=
  match session.caches ref with
  | none => session.reply (.failed .noCache)
  | some cache => go cache

/-- Goes on with the module of a handle, if there is one. -/
def withModule (session : Session) (handle : String) (go : TestModule → Outcome × Session) :
    Outcome × Session :=
  match session.module? handle with
  | none => session.reply (.failed (.noHandle handle))
  | some module => go module

/-- Goes on with the module of a handle. What takes its lock is refused while a call of it is
running. -/
def withIdle (session : Session) (handle : String) (locks : TestModule → Bool)
    (go : TestModule → Outcome × Session) : Outcome × Session :=
  session.withModule handle fun module =>
    if locks module && session.isRunning module then session.reply (.failed .busy) else go module

def perform (session : Session) (step : Step) (script : Option Runner) : Outcome × Session :=
  match step with
  | .load ref name handle =>
    session.withCache ref fun cache =>
      match session.load ref cache name handle with
      | (.ok module, session) => session.reply (.loaded module)
      | (.error fault, session) => session.reply (.failed (.load fault))
  | .require ref name handle =>
    session.withCache ref fun cache =>
      match session.load ref cache name handle with
      | (.ok module, session) => session.reply (.loaded module)
      | (.error fault, session) =>
        { session with rig := session.rig.report (.loadFailed name fault) }.reply
          (.failed (.aborted fault))
  | .inspect ref names =>
    session.withCache ref fun cache => session.reply (.cache cache (names.map cache.contains))
  | .describe handle => session.withModule handle fun module => session.reply (.described module)
  | .make items => { session with disk := session.disk.makeAll items }.reply .nothing
  | .remove path => { session with disk := session.disk.remove path }.reply .nothing
  | .probe handle args =>
    session.withIdle handle step.locks fun module =>
      match args with
      | none => session.reply .nothing
      | some args =>
        let (outcome, trace, session) := session.probe module args script
        (⟨.probed outcome, trace⟩, session)
  | .hook handle role data options =>
    session.withIdle handle step.locks fun module =>
      let (outcome, trace, session) := session.hook module role data (options.getD {}) script
      let answer :=
        if options.isSome then Answer.hooked outcome
        else .patched (outcome.map Invocation.data)
      (⟨answer, trace⟩, session)
  | .install handle data =>
    session.withIdle handle step.locks fun module =>
      let (hasData, session) := session.install module data
      session.reply (.installed hasData)
  | .direct handle =>
    session.withModule handle fun module =>
      let (trace, session) := session.direct module script
      (⟨.ran, some trace⟩, session)

end Session

end HidRig
