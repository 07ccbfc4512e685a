import HidRig.Proofs.Rig.Bridge
import HidRig.Session.Run

/-! # Calls of modules

A probe and a hook begin and end alike: a table is installed over the buffer of the call, native
code runs, and the table is taken away again.

* `Call`: what a module is called for, once nothing can refuse the call any more.
* `Call.start`, `Call.finish`: the state in which the native code starts, and the state after the
  call.
* `TestModule.uniform`: a module with one entry point.
* `TestModule.prepare_eq_ok_iff`: when a hook is called.
* `Session.ended`: how the native code of a call ended.
* `Session.probe_eq`, `Session.hook_eq`: probes and hooks as calls.
* `Session.hook_of_code_zero`, `Session.hook_of_code_ne_zero`: the outcome of a hook.
-/

namespace HidRig

inductive Call where
  | probe (args : ProbeArgs)
  /-- The hook of a role, by its entry point, over a payload. -/
  | hook (role : Role) (payload : Option Payload) (entry : EntryPoint) (options : InvokeOptions)

namespace Call

def entry (module : TestModule) : Call → EntryPoint
  | probe _ => module.probe
  | hook _ _ entry _ => entry

def policy : Call → RequestPolicy
  | probe _ => {}
  | hook _ _ _ options => options.policy

/-- The buffer of a call, with its length. -/
def buffer (rig : Rig) : Call → Option (BufferId × Nat)
  | probe _ => none
  | hook _ payload _ _ => payload.map fun payload => (⟨rig.bufferCount⟩, payload.buffer.length)

/-- The surroundings and the state in which the native code of a call starts. -/
def start (module : TestModule) (rig : Rig) : Call → Frame × Rig
  | probe args => ProbeCall.start module args rig
  | hook role payload _ options => (HookCall.start module role payload options rig).2

/-- The state after a call that began in `before`, by how the native code ended. -/
def finish (module : TestModule) (before : Rig) (code : Int32) (frame : Frame) (rig : Rig) :
    Call → Rig
  | probe _ => (ProbeCall.finish module code frame rig).2
  | hook role payload _ options =>
    (HookCall.finish module (HookCall.start module role payload options before).1 code rig).2

/-- The event that a call ends with, by how many requests were recorded. -/
def event (module : TestModule) (code : Int32) (frame : Frame) (requests : Nat) : Call → Event
  | probe _ => .probed module.name code (frame.args.getD .empty).retval
  | hook role payload _ _ =>
    .hooked module.name role code ((payload.map Payload.size).getD 0) requests

/-! ## The state in which native code starts -/

section Start
variable (module : TestModule) (rig : Rig) (call : Call)

@[simp] theorem start_file : (call.start module rig).1.file = module.file := by
  cases call with
  | probe args => rfl
  | hook role payload entry options => cases payload <;> rfl

@[simp] theorem start_armed : (call.start module rig).2.armed = some (.start call.policy) := by
  cases call with
  | probe args => rfl
  | hook role payload entry options => cases payload <;> rfl

theorem start_tables :
    (call.start module rig).2.tables =
      fun f => if f = module.file then .armed (call.buffer rig) else rig.tables f := by
  cases call with
  | probe args => exact Rig.arm_tables none {}
  | hook role payload entry options => cases payload <;> exact Rig.arm_tables _ _

theorem start_filled : ((call.start module rig).2.tables module.file).Filled := by
  have h := congrFun (call.start_tables module rig) module.file
  rw [h, if_pos rfl]
  exact ServiceTable.filled_armed _

/-- The context of a call is made for it. -/
theorem start_given {id : ContextId} (h : (call.start module rig).1.given = some id) :
    id = rig.nextContext ∧ ((call.start module rig).2.contexts id).isSome := by
  cases call with
  | probe args => cases h
  | hook role payload entry options =>
    cases payload <;> cases h <;> simp [start, HookCall.start, Rig.newContext, Rig.newBuffer,
      Rig.setContext, Rig.setBuffer]

end Start

/-! ## The state after a call -/

section Finish
variable (module : TestModule) (before rig : Rig) (code : Int32) (frame : Frame) (call : Call)

theorem finish_tables :
    (call.finish module before code frame rig).tables =
      fun f => if f = module.file then .disarmed else rig.tables f := by
  cases call with
  | probe args => exact Rig.disarm_tables
  | hook role payload entry options => cases payload <;> exact Rig.disarm_tables

@[simp] theorem finish_armed : (call.finish module before code frame rig).armed = none := by
  cases call with
  | probe args => exact Rig.disarm_armed
  | hook role payload entry options => cases payload <;> exact Rig.disarm_armed

theorem finish_log :
    (call.finish module before code frame rig).log =
      (rig.disarm module.file).2.log ++
        [call.event module code frame (rig.disarm module.file).1.requests.length] := by
  cases call with
  | probe args => rfl
  | hook role payload entry options => cases payload <;> rfl

theorem finish_contexts (id : ContextId) :
    (call.finish module before code frame rig).contexts id =
      if (call.start module before).1.given = some id then none
      else (rig.disarm module.file).2.contexts id := by
  cases call with
  | probe args => rfl
  | hook role payload entry options =>
    by_cases hid : id = before.nextContext
    · cases payload <;>
        simp [finish, start, HookCall.finish, HookCall.start, Rig.newContext, Rig.newBuffer,
          Rig.setContext, Rig.setBuffer, Rig.report, hid]
    · cases payload <;>
        simp [finish, start, HookCall.finish, HookCall.start, Rig.newContext, Rig.newBuffer,
          Rig.setContext, Rig.setBuffer, Rig.report, hid, Ne.symm hid]

end Finish

end Call

/-- A module with one entry point for everything. -/
def TestModule.uniform (file : FileId) (entry : EntryPoint) : TestModule where
  id := ⟨file.number⟩
  name := "uniform"
  path := []
  file := file
  lock := .path [UInt8.ofNat file.number]
  probe := entry
  slots := Role.all.map fun role => (role, .resolved "entry" entry)

/-- A hook is called once its payload is made and its entry point is found. -/
theorem TestModule.prepare_eq_ok_iff {module : TestModule} {role : Role} {data : Option Bytes}
    {payload : Option Payload} {entry : EntryPoint} :
    module.prepare role data = .ok (payload, entry) ↔
      Payload.forRole role data = .ok payload ∧ module.hookEntry role = .ok entry := by
  unfold prepare
  cases Payload.forRole role data with
  | error fault => exact ⟨nofun, fun made => nomatch made.1⟩
  | ok made =>
    cases module.hookEntry role with
    | error fault => exact ⟨nofun, fun made => nomatch made.2⟩
    | ok found =>
      show Except.ok (made, found) = .ok (payload, entry) ↔ _
      simp

namespace Session

/-- The session in which the native code of a call starts. -/
def begun (session : Session) (module : TestModule) (call : Call) : Session :=
  { session with rig := (call.start module session.rig).2 }.enter module

/-- How the native code of a call ended. -/
def ended (session : Session) (module : TestModule) (call : Call) (script : Option Script) :
    EntryFinish :=
  (session.begun module call).runEntry (call.entry module) (script.map Script.run)
    (call.start module session.rig).1

def called (session : Session) (module : TestModule) (call : Call) (script : Option Script) :
    Session :=
  let ended := session.ended module call script
  { ended.session.leave with
    rig := call.finish module session.rig ended.code ended.frame ended.session.rig }

theorem probe_eq (session : Session) (module : TestModule) (args : ProbeArgs)
    (script : Option Script) :
    session.probe module args (script.map Script.run) =
      let ended := session.ended module (.probe args) script
      ((ProbeCall.finish module ended.code ended.frame ended.session.rig).1, ended.trace,
        session.called module (.probe args) script) :=
  rfl

theorem hook_eq (session : Session) (module : TestModule) (role : Role) (data : Option Bytes)
    (options : InvokeOptions) (script : Option Script) {payload : Option Payload}
    {entry : EntryPoint} (h : module.prepare role data = .ok (payload, entry)) :
    session.hook module role data options (script.map Script.run) =
      let call := Call.hook role payload entry options
      let ended := session.ended module call script
      ((HookCall.finish module (HookCall.start module role payload options session.rig).1
          ended.code ended.session.rig).1,
        ended.trace, session.called module call script) := by
  simp only [Session.hook, h]
  rfl

section Outcome
variable (session : Session) (module : TestModule) (role : Role) (data : Option Bytes)
  (options : InvokeOptions) (script : Option Script) {payload : Option Payload} {entry : EntryPoint}

theorem hook_of_code_zero (h : module.prepare role data = .ok (payload, entry))
    (hcode : (session.ended module (.hook role payload entry options) script).code = 0) :
    ∃ invocation,
      (session.hook module role data options (script.map Script.run)).1 = .ok invocation ∧
      (⟨invocation.requests, invocation.leaked⟩ : Rig.CallReport) =
        ((session.ended module (.hook role payload entry options) script).session.rig.disarm
          module.file).1 := by
  rw [session.hook_eq module role data options script h]
  exact ⟨_, if_pos hcode, rfl⟩

theorem hook_of_code_ne_zero (h : module.prepare role data = .ok (payload, entry))
    (hcode : (session.ended module (.hook role payload entry options) script).code ≠ 0) :
    (session.hook module role data options (script.map Script.run)).1 =
      .error (.returnCode module.name (.hook role)
        (session.ended module (.hook role payload entry options) script).code) := by
  rw [session.hook_eq module role data options script h]
  refine (if_neg hcode).trans ?_
  cases payload <;> rfl

end Outcome

end Session

end HidRig
