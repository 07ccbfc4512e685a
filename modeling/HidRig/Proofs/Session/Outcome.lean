import HidRig.Proofs.Buffers.Isolation
import HidRig.Proofs.Contexts.Lent
import HidRig.Proofs.Session.Independence

/-! # How a hook call ends

A hook call is refused for its payload first, then for its role, and a refused call leaves no trace.
Any other call runs native code once. The code that it returns decides between a fault and an
invocation, which tells the context as the code left it.

* `HookContext.Describes`: the context that a hook starts on, unless the caller gives one.
* `Session.hook_classified`: the outcomes of hook calls.
-/

namespace HidRig

/-! ## The start of a hook -/

/-- Data that a hook of the role takes. Only a descriptor may be too long. -/
def Role.Admits : Role → Option Bytes → Prop
  | reportDescriptorFixup, some rdesc => rdesc.length ≤ 4096
  | _, _ => True

/-- The context for a buffer of some length, of which some bytes are in use. -/
structure HookContext.Describes (ctx : HookContext) (length size : Nat) : Prop where
  index : ctx.index = 0
  device : ctx.device = 0
  allocatedSize : ctx.allocatedSize.toNat = min length 4294967295
  reportType : ReportType.ofRaw? ctx.reportType = some .input
  retvalOrSize : ctx.retvalOrSize.toInt = (min size 2147483647 : Nat)

theorem HookContext.describes_forBuffer (length size : Nat) :
    (forBuffer length size).Describes length size where
  index := rfl
  device := rfl
  allocatedSize := by
    have fits : min length Abi.maxWord < 2 ^ 32 := by
      unfold Abi.maxWord
      omega
    exact UInt32.toNat_ofNat_of_lt' fits
  reportType := rfl
  retvalOrSize := by
    have fits : min size Abi.maxSigned < 2 ^ 31 := by
      unfold Abi.maxSigned
      omega
    exact Int32.toInt_ofNat_of_lt fits

namespace Payload
variable {role : Role} {data : Option Bytes}

theorem forRole_of_long {rdesc : Bytes} (long : 4096 < rdesc.length) :
    forRole .reportDescriptorFixup (some rdesc) = .error (.payloadTooLarge rdesc.length 4096) := by
  have refused : ofDescriptor? rdesc = .error (.payloadTooLarge rdesc.length 4096) := if_pos long
  rw [forRole, refused]
  rfl

theorem forRole_of_admits (admits : role.Admits data) :
    ∃ payload, forRole role data = .ok payload ∧ payload.map Payload.size = data.map List.length := by
  cases data with
  | none => cases role <;> exact ⟨none, rfl, rfl⟩
  | some bytes =>
    cases role with
    | deviceEvent => exact ⟨some (.ofReport bytes), rfl, rfl⟩
    | reportDescriptorFixup =>
      have taken : ofDescriptor? bytes = .ok ⟨bytes.resize Abi.bufferSize 0, bytes.length⟩ :=
        if_neg (Nat.not_lt.mpr admits)
      refine ⟨some ⟨bytes.resize Abi.bufferSize 0, bytes.length⟩, ?_, rfl⟩
      rw [forRole, taken]
      rfl

theorem length_of_forRole {payload : Option Payload} (made : forRole role data = .ok payload) :
    (payload.map fun p => p.buffer.length) = data.map role.fillLength := by
  obtain ⟨content, lengths⟩ := content_of_forRole made
  rw [← lengths, ← Function.comp_def, ← Option.map_map, content, Option.map_map]
  rfl

end Payload

theorem InvokeOptions.startContext_describes (options : InvokeOptions) {payload : Option Payload}
    {role : Role} {data : Option Bytes} (default : options.context = none)
    (lengths : (payload.map fun p => p.buffer.length) = data.map role.fillLength)
    (sizes : payload.map Payload.size = data.map List.length) :
    (options.startContext payload).Describes ((data.map role.fillLength).getD 0)
      ((data.map List.length).getD 0) := by
  rw [startContext, default, lengths, sizes]
  exact HookContext.describes_forBuffer _ _

namespace Session
variable (session : Session) (module : TestModule) (role : Role) (payload : Option Payload)
  (entry : EntryPoint) (options : InvokeOptions) (script : Option Script)

/-- The context of a hook: a new one, on which the native code starts, and which is there when the
code ends. -/
theorem context_of_hook :
    let call := Call.hook role payload entry options
    let id : ContextId := session.rig.nextContext
    (call.start module session.rig).1.given = some id ∧
      (call.start module session.rig).2.contexts id = some (options.startContext payload) ∧
      (session.ended module call script).session.rig.Lends id := by
  intro call id
  have given : (call.start module session.rig).1.given = some id := by cases payload <;> rfl
  have there : (call.start module session.rig).2.contexts id =
      some (options.startContext payload) := by
    cases payload <;>
      simp [call, id, Call.start, HookCall.start, Rig.newContext, Rig.newBuffer, Rig.setContext,
        Rig.setBuffer]
  have body := session.chronicle_ended (Script.chronicled script) module call
  exact ⟨given, there, body.lends (call.lends_given module session.rig given)⟩

/-- A hook that succeeds tells its context as the native code left it. -/
theorem context_of_code_zero {data : Option Bytes}
    (prepared : module.prepare role data = .ok (payload, entry))
    (code : (session.ended module (.hook role payload entry options) script).code = 0) :
    ∃ invocation,
      (session.hook module role data options (script.map Script.run)).1 = .ok invocation ∧
      (session.ended module (.hook role payload entry options) script).session.rig.contexts
        session.rig.nextContext = some invocation.context := by
  obtain ⟨-, -, lent⟩ := session.context_of_hook module role payload entry options script
  obtain ⟨last, there⟩ := Option.isSome_iff_exists.mp lent.live
  rw [session.hook_eq module role data options script prepared]
  refine ⟨_, if_pos code, there.trans (congrArg some ?_)⟩
  generalize (session.ended module (.hook role payload entry options) script).session.rig = rig
    at lent there
  have own : (HookCall.start module role payload options session.rig).1.context =
      session.rig.nextContext := by cases payload <;> rfl
  -- the contexts that are freed at the end are those on the list
  have kept : (rig.disarm module.file).2.contexts session.rig.nextContext = some last := by
    cases running : rig.armed with
    | none =>
      rw [Rig.disarm_of_idle running]
      exact there
    | some armed =>
      rw [Rig.disarm_of_armed running]
      have fresh := lent.untracked armed running
      simpa [Rig.reportAll, Rig.freeContexts, Rig.setTable, fresh] using there
  show last = ((rig.disarm module.file).2.contexts
    (HookCall.start module role payload options session.rig).1.context).getD .empty
  rw [own, kept]
  rfl

end Session

/-! ## The outcomes -/

/-- A hook call that is not refused: how its native code starts and ends, and what is made of the
code that it returns. -/
structure Session.HookRan (session : Session) (module : TestModule) (role : Role)
    (data : Option Bytes) (options : InvokeOptions) (script : Option Script) (call : Call)
    (outcome : Except InvocationFault Invocation × Option (List Note) × Session)
    (start last : HookContext) : Prop where
  given : ∃ id, (call.start module session.rig).1.given = some id ∧
    (call.start module session.rig).2.contexts id = some start ∧
    (session.ended module call script).session.rig.contexts id = some last
  /-- The record of the call is what its native code did, from its start to its end. -/
  record : Chronicle module.file (call.start module session.rig).2
    (session.callActs module call script) (session.ended module call script).session.rig
  callers : ∀ ctx, options.context = some ctx → start = ctx
  default : options.context = none →
    start.Describes ((data.map role.fillLength).getD 0) ((data.map List.length).getD 0)
  after : outcome.2 = ((session.ended module call script).trace, session.called module call script)
  fails : (session.ended module call script).code ≠ 0 →
    outcome.1 =
      .error (.returnCode module.name (.hook role) (session.ended module call script).code)
  succeeds : (session.ended module call script).code = 0 →
    ∃ invocation, outcome.1 = .ok invocation ∧ invocation.context = last

section Refused
variable (session : Session) {module : TestModule} {role : Role} {data : Option Bytes}
  {fault : InvocationFault}

theorem Session.hook_of_refused (refused : module.prepare role data = .error fault)
    (options : InvokeOptions) (script : Option Runner) :
    session.hook module role data options script = (.error fault, none, session) := by
  unfold Session.hook
  rw [refused]

theorem TestModule.prepare_of_long {rdesc : Bytes} (long : 4096 < rdesc.length) :
    module.prepare .reportDescriptorFixup (some rdesc) =
      .error (.payloadTooLarge rdesc.length 4096) := by
  unfold TestModule.prepare
  rw [Payload.forRole_of_long long]
  rfl

theorem TestModule.prepare_of_unresolved {reason : String} (admits : role.Admits data)
    (unresolved : module.hooks role = .unresolved reason) :
    module.prepare role data = .error (.unresolvedRole module.name role reason) := by
  obtain ⟨payload, fits, -⟩ := Payload.forRole_of_admits admits
  unfold TestModule.prepare
  rw [fits, TestModule.hookEntry_eq, unresolved]
  rfl

theorem TestModule.prepare_of_resolved {symbol : String} {entry : EntryPoint}
    {payload : Option Payload} (fits : Payload.forRole role data = .ok payload)
    (resolved : module.hooks role = .resolved symbol entry) :
    module.prepare role data = .ok (payload, entry) :=
  TestModule.prepare_eq_ok_iff.mpr ⟨fits, by rw [TestModule.hookEntry_eq, resolved]⟩

theorem Session.acts_of_refused (refused : module.prepare role data = .error fault)
    (options : InvokeOptions) (script : Option Script) {handle : String}
    (idle : session.idle? handle = some module) :
    session.acts (.hook handle role data (some options)) script = [] := by
  simp [acts, tracedStep, idle, refused]

theorem Session.acts_of_prepared {payload : Option Payload} {entry : EntryPoint}
    (prepared : module.prepare role data = .ok (payload, entry)) (options : InvokeOptions)
    (script : Option Script) {handle : String} (idle : session.idle? handle = some module) :
    let call := Call.hook role payload entry options
    session.acts (.hook handle role data (some options)) script =
      [.called session.rig module call (session.callActs module call script)] := by
  simp only [acts, tracedStep, idle, prepared, Option.toList_some, List.flatMap_singleton,
    Option.getD_some]
  rfl

end Refused

/-- A hook call that data admit runs, if the role has an entry point. -/
theorem Session.hookRan (session : Session) {module : TestModule} {role : Role}
    {data : Option Bytes} {symbol : String} {entry : EntryPoint} (admits : role.Admits data)
    (resolved : module.hooks role = .resolved symbol entry) (options : InvokeOptions)
    (script : Option Script) :
    ∃ payload start last, Payload.forRole role data = .ok payload ∧
      session.HookRan module role data options script (.hook role payload entry options)
        (session.hook module role data options (script.map Script.run)) start last := by
  obtain ⟨payload, fits, sizes⟩ := Payload.forRole_of_admits admits
  have prepared := TestModule.prepare_of_resolved fits resolved
  obtain ⟨given, there, lent⟩ := session.context_of_hook module role payload entry options script
  obtain ⟨last, left⟩ := Option.isSome_iff_exists.mp lent.live
  have lengths := Payload.length_of_forRole fits
  have record := session.chronicle_ended (Script.chronicled script) module
    (.hook role payload entry options)
  refine ⟨payload, options.startContext payload, last, fits, ⟨_, given, there, left⟩, record,
    fun ctx mine => ?_, fun default => ?_, ?_, fun code => ?_, fun code => ?_⟩
  · rw [InvokeOptions.startContext, mine, Option.getD_some]
  · exact options.startContext_describes default lengths sizes
  · simp only [session.hook_eq module role data options script prepared]
  · exact session.hook_of_code_ne_zero module role data options script prepared code
  · obtain ⟨invocation, ended, same⟩ :=
      session.context_of_code_zero module role payload entry options script prepared code
    exact ⟨invocation, ended, Option.some.inj (same.symm.trans left)⟩

/-- A hook that ran does not complain of a payload. -/
theorem Session.HookRan.ne_tooLarge {session : Session} {module : TestModule} {role : Role}
    {data : Option Bytes} {options : InvokeOptions} {script : Option Script} {call : Call}
    {outcome : Except InvocationFault Invocation × Option (List Note) × Session}
    {start last : HookContext}
    (h : session.HookRan module role data options script call outcome start last)
    (length limit : Nat) : outcome.1 ≠ .error (.payloadTooLarge length limit) := by
  intro same
  by_cases code : (session.ended module call script).code = 0
  · obtain ⟨invocation, ended, -⟩ := h.succeeds code
    rw [ended] at same
    cases same
  · rw [h.fails code] at same
    cases same

/-- A hook call with a descriptor of more than 4096 bytes is refused for that, and any other for a
role that has no entry point. Nothing happens then. Otherwise native code runs once, and its code
decides. -/
theorem Session.hook_classified (session : Session) (module : TestModule) (role : Role)
    (data : Option Bytes) (options : InvokeOptions) (script : Option Script) :
    let outcome := session.hook module role data options (script.map Script.run)
    let recorded (acts : List Act) := ∀ handle, session.idle? handle = some module →
      session.acts (.hook handle role data (some options)) script = acts
    (∀ rdesc, role = .reportDescriptorFixup → data = some rdesc → 4096 < rdesc.length →
      outcome = (.error (.payloadTooLarge rdesc.length 4096), none, session) ∧ recorded []) ∧
    (∀ reason, role.Admits data → module.hooks role = .unresolved reason →
      outcome = (.error (.unresolvedRole module.name role reason), none, session) ∧
        recorded []) ∧
    (∀ symbol entry, role.Admits data → module.hooks role = .resolved symbol entry →
      ∃ payload start last, Payload.forRole role data = .ok payload ∧
        let call := Call.hook role payload entry options
        recorded [.called session.rig module call (session.callActs module call script)] ∧
          session.HookRan module role data options script call outcome start last) ∧
    (role = .deviceEvent → ∀ length limit, outcome.1 ≠ .error (.payloadTooLarge length limit)) := by
  intro outcome recorded
  have nothing {fault : InvocationFault} (refused : module.prepare role data = .error fault) :
      outcome = (.error fault, none, session) ∧ recorded [] :=
    ⟨session.hook_of_refused refused options _,
      fun _ idle => session.acts_of_refused refused options script idle⟩
  refine ⟨?_, fun reason admits unresolved => ?_, fun symbol entry admits resolved => ?_, ?_⟩
  · rintro rdesc rfl rfl long
    exact nothing (TestModule.prepare_of_long long)
  · exact nothing (TestModule.prepare_of_unresolved admits unresolved)
  · obtain ⟨payload, start, last, fits, ran⟩ := session.hookRan admits resolved options script
    have prepared := TestModule.prepare_of_resolved fits resolved
    exact ⟨payload, start, last, fits,
      fun _ idle => session.acts_of_prepared prepared options script idle, ran⟩
  · rintro rfl length limit same
    have admits : Role.deviceEvent.Admits data := by cases data <;> trivial
    cases hooks : module.hooks .deviceEvent with
    | unresolved reason =>
      obtain ⟨refused, -⟩ := nothing (TestModule.prepare_of_unresolved admits hooks)
      rw [refused] at same
      cases same
    | resolved symbol entry =>
      obtain ⟨payload, start, last, -, ran⟩ := session.hookRan admits hooks options script
      exact ran.ne_tooLarge length limit same

/-- Asks for a context, and ends with a code. -/
def Script.refusing (code : Int32) : Script :=
  .call (.allocate 5) fun _ => .exit code

/-- A code that is not zero is the outcome of a call that took a step. -/
theorem Session.hook_classified_refusing :
    let session := Session.start Disk.empty [] fun _ => none
    let module := TestModule.uniform ⟨1⟩ .scripted
    let call : Call := .hook .deviceEvent (some ⟨[1, 2], 2⟩) .scripted {}
    let acts := session.callActs module call (some (.refusing (-71)))
    let outcome :=
      session.hook module .deviceEvent (some [1, 2]) {} (some (Script.refusing (-71)).run)
    outcome.1 = .error (.returnCode "uniform" (.hook .deviceEvent) (-71)) ∧
      outcome.2.2 = session.called module call (some (.refusing (-71))) ∧ acts.length = 1 ∧
      ∃ last, Chronicle ⟨1⟩ (call.start module session.rig).2 acts last := by
  intro session module call acts outcome
  obtain ⟨-, -, runs, -⟩ := session.hook_classified module .deviceEvent (some [1, 2]) {}
    (some (.refusing (-71)))
  obtain ⟨payload, start, last, fits, -, ran⟩ := runs "entry" .scripted trivial rfl
  cases fits
  exact ⟨ran.fails (by decide), congrArg Prod.snd ran.after, by decide, _, ran.record⟩

end HidRig
