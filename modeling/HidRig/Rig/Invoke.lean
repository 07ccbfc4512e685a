import HidRig.Rig.Serve
import HidRig.Rig.Module

/-! # Invocations

An invocation starts on the rig, runs native code, and ends on the rig. Start and end are defined
here for any code in between.

* `InvokeOptions`, `Invocation`: what a hook call takes and gives.
* `Payload.ofDescriptor?`, `Payload.ofReport`: the buffer of a call.
* `ProbeCall`, `HookCall`: how the two kinds of calls start and end.
* `TestModule.prepare`: what a hook call needs before it starts.
-/

namespace HidRig

structure InvokeOptions where
  /-- The context, unless it is made from the payload. -/
  context : Option HookContext := none
  policy : RequestPolicy := {}
deriving DecidableEq, Repr, Inhabited

structure Invocation where
  /-- The buffer after the hook, if there was one. -/
  data : Option Bytes
  context : HookContext
  requests : List RequestRecord
  leaked : Nat
deriving DecidableEq, Repr

/-- The buffer of a hook call, and how much of it is in use. -/
structure Payload where
  buffer : Bytes
  size : Nat
deriving DecidableEq, Repr

/-- The payload of a descriptor: the full buffer, zeros after the descriptor. -/
def Payload.ofDescriptor? (rdesc : Bytes) : Except InvocationFault Payload :=
  if Abi.bufferSize < rdesc.length then .error (.payloadTooLarge rdesc.length Abi.bufferSize)
  else .ok ⟨rdesc.resize Abi.bufferSize 0, rdesc.length⟩

/-- The payload of a report: the report. -/
def Payload.ofReport (report : Bytes) : Payload :=
  ⟨report, report.length⟩

/-- The payload that data make for the hook of a role. -/
def Payload.forRole (role : Role) (data : Option Bytes) :
    Except InvocationFault (Option Payload) :=
  match role, data with
  | _, none => .ok none
  | .reportDescriptorFixup, some rdesc => (Payload.ofDescriptor? rdesc).map some
  | .deviceEvent, some report => .ok (some (.ofReport report))

def InvokeOptions.startContext (options : InvokeOptions) (payload : Option Payload) : HookContext :=
  options.context.getD
    (.forBuffer ((payload.map fun p => p.buffer.length).getD 0) ((payload.map Payload.size).getD 0))

/-! ## Probes -/

namespace ProbeCall

/-- Starts a probe: no buffer, and requests that succeed. -/
def start (module : TestModule) (args : ProbeArgs) (rig : Rig) : Frame × Rig :=
  (⟨module.file, none, some args⟩, rig.arm module.file none {})

/-- Ends a probe with the code that it returned. -/
def finish (module : TestModule) (code : Int32) (frame : Frame) (rig : Rig) :
    Except InvocationFault ProbeArgs × Rig :=
  let (_, rig) := rig.disarm module.file
  let args := frame.args.getD .empty
  let rig := rig.report (.probed module.name code args.retval)
  (if code = 0 then .ok args else .error (.returnCode module.name .probe code), rig)

end ProbeCall

/-! ## Hooks -/

structure HookCall where
  role : Role
  size : Nat
  context : ContextId
  /-- The buffer of the call, if it has one. -/
  buffer : Option BufferId

namespace HookCall

def start (module : TestModule) (role : Role) (payload : Option Payload) (options : InvokeOptions)
    (rig : Rig) : HookCall × Frame × Rig :=
  let (context, rig) := rig.newContext (options.startContext payload)
  let size := (payload.map Payload.size).getD 0
  match payload with
  | none =>
    (⟨role, size, context, none⟩, ⟨module.file, some context, none⟩,
      rig.arm module.file none options.policy)
  | some payload =>
    let (buffer, rig) := rig.newBuffer payload.buffer
    (⟨role, size, context, some buffer⟩, ⟨module.file, some context, none⟩,
      rig.arm module.file (some (buffer, payload.buffer.length)) options.policy)

/-- Ends a hook with the code that it returned. Its context and buffer are gone afterwards. -/
def finish (module : TestModule) (call : HookCall) (code : Int32) (rig : Rig) :
    Except InvocationFault Invocation × Rig :=
  let (report, rig) := rig.disarm module.file
  let context := (rig.contexts call.context).getD .empty
  let data := call.buffer.bind rig.buffers
  let rig := rig.setContext call.context none
  let rig := (call.buffer.map fun id => rig.setBuffer id none).getD rig
  let rig := rig.report (.hooked module.name call.role code call.size report.requests.length)
  (if code = 0 then .ok ⟨data, context, report.requests, report.leaked⟩
    else .error (.returnCode module.name (.hook call.role) code), rig)

end HookCall

namespace TestModule

/-- The entry point of a role, or the fault of a call that has none. -/
def hookEntry (module : TestModule) (role : Role) : Except InvocationFault EntryPoint :=
  Hook.entryIn module.name module.slots role

theorem hookEntry_eq (module : TestModule) (role : Role) :
    module.hookEntry role =
      match module.hooks role with
      | .resolved _ entry => .ok entry
      | .unresolved reason => .error (.unresolvedRole module.name role reason) := by
  unfold hookEntry Hook.entryIn hooks
  cases module.slots.lookup role with
  | none => rfl
  | some hook => cases hook <;> rfl

/-- What a hook call needs before any code runs: a payload that fits, then an entry point. -/
def prepare (module : TestModule) (role : Role) (data : Option Bytes) :
    Except InvocationFault (Option Payload × EntryPoint) := do
  let payload ← Payload.forRole role data
  let entry ← module.hookEntry role
  .ok (payload, entry)

end TestModule

end HidRig
