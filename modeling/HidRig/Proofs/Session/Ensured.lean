import HidRig.Proofs.Contexts.Account
import HidRig.Proofs.Native.Workplace
import HidRig.Proofs.Session.Outcome

/-! # What a call makes of its code

What the code of a hook ensures of its workplace decides what the call gives back, in every session.

* `Call.offers_start`: a hook with data is offered a workplace over them.
* `Workplace.outcome`: what is made of the workplace that a hook leaves.
* `Session.allocate_isSome`: contexts are not refused in a call.
* `Session.hook_of_ensures`: the outcome and the requests of a hook, by what its code ensures.
* `TestModule.Fixes`, `TestModule.Judges`: what a module makes of data and of a probe argument.
-/

namespace HidRig

/-- The invocation that a workplace stands for at the end of a hook. -/
def Workplace.invocation (place : Workplace) : Invocation :=
  ⟨some place.data, place.context, place.requests, place.held.length⟩

/-- What a hook that leaves a workplace gives back, by its code. -/
def Workplace.outcome (place : Workplace) (module : TestModule) (role : Role) (code : Int32) :
    Except InvocationFault Invocation :=
  if code = 0 then .ok place.invocation else .error (.returnCode module.name (.hook role) code)

/-! ## The ends of a hook -/

theorem Call.offers_start (module : TestModule) (rig : Rig) (role : Role) (payload : Payload)
    (entry : EntryPoint) (options : InvokeOptions) (small : payload.buffer.length < 2 ^ 64) :
    let start := (Call.hook role (some payload) entry options).start module rig
    start.2.Offers start.1
      (.start ⟨rig.bufferCount⟩ rig.nextContext options.policy payload.buffer
        (options.startContext (some payload))) where
  table := Rig.arm_table _ _
  small := small
  data := by
    simp [Call.start, HookCall.start, Rig.newBuffer, Rig.setBuffer, Rig.newContext, Rig.setContext,
      Workplace.start]
  given := rfl
  context := by
    simp [Call.start, HookCall.start, Rig.newBuffer, Rig.setBuffer, Rig.newContext, Rig.setContext,
      Workplace.start]
  record := ⟨[], rfl, .nil⟩
  nodup := by simp [Workplace.start, Workplace.ids]
  live := nofun
  gone := nofun

/-- Native code changes no tables. -/
theorem Native.run_tables {α : Type} (body : Native α) (frame : Frame) (rig : Rig) :
    (body.run frame rig).2.2.tables = rig.tables :=
  ((body.chronicle frame rig).solo (body.isServed_of_mem frame rig)).tables

namespace Rig.Offers
variable {rig before : Rig} {frame : Frame} {place first : Workplace}

/-- Two workplaces in the same surroundings, with the same tables, are at the same place. -/
theorem same (h : rig.Offers frame place) (start : before.Offers frame first)
    (tables : rig.tables = before.tables) :
    place.own = first.own ∧ place.buffer = first.buffer := by
  have own : some place.own = some first.own := h.given.symm.trans start.given
  have table : ServiceTable.armed (some (place.buffer, place.data.length)) =
      .armed (some (first.buffer, first.data.length)) := by
    rw [← h.table, ← start.table, tables]
  have buffer : some place.buffer = some first.buffer := congrArg ServiceTable.data table
  exact ⟨Option.some.inj own, Option.some.inj buffer⟩

/-- A hook ends with the workplace that its code left. -/
theorem finish (h : rig.Offers frame place) (module : TestModule) (role : Role) (size : Nat)
    (code : Int32) :
    (HookCall.finish module ⟨role, size, place.own, some place.buffer⟩ code rig).1 =
      place.outcome module role code := by
  obtain ⟨tracked, running, perm⟩ := h.record
  have fresh : place.own ∉ tracked := fun member =>
    (List.nodup_cons.mp h.nodup).1 (perm.mem_iff.mp member)
  have leaked : tracked.length = place.held.length := by
    rw [perm.length_eq, Workplace.ids, List.length_map]
  obtain ⟨after, ends, context, data⟩ : ∃ after,
      rig.disarm module.file = (⟨place.requests, place.held.length⟩, after) ∧
        after.contexts place.own = some place.context ∧
        after.buffers place.buffer = some place.data := by
    rw [← leaked]
    refine ⟨_, Rig.disarm_of_armed running, ?_, h.data⟩
    simpa [Rig.reportAll, Rig.freeContexts, Rig.setTable, fresh] using h.context
  simp only [HookCall.finish, ends, context, Option.bind_some, data, Option.getD_some]
  rfl

/-- What was asked for is gone when the call has ended. -/
theorem gone_after (h : rig.Offers frame place) {id : ContextId} (member : id ∈ place.handed)
    (module : TestModule) (call : Call) (code : Int32) :
    (call.finish module before code frame rig).contexts id = none := by
  obtain ⟨tracked, running, perm⟩ := h.record
  rw [Call.finish_contexts, Rig.disarm_of_armed running]
  split
  · rfl
  · show (if id ∈ tracked then none else rig.contexts id) = none
    split
    · rfl
    · rename_i off
      exact h.gone id member fun there => off (perm.mem_iff.mpr there)

end Rig.Offers

/-! ## Hooks -/

/-- No code that keeps to the services is refused a context in its own call. -/
theorem Session.allocate_isSome (session : Session) (module : TestModule) (call : Call)
    (script : Option Script) (own : ∀ act ∈ session.callActs module call script, act.IsServed)
    {before : Rig} {frame : Frame} {hid : UInt32}
    (member : .served before frame (.allocate hid) ∈ session.callActs module call script) :
    (before.allocate frame.file hid).1.isSome := by
  obtain ⟨pre, post, split⟩ := List.append_of_mem member
  obtain ⟨armed, running, -, filled⟩ := session.account_of_served module call script own split
  rw [Rig.allocate_of_armed filled running]
  rfl

/-- A hook whose code ensures a postcondition ends in a workplace of which it holds. -/
theorem Session.hook_of_ensures (session : Session) {module : TestModule} {role : Role}
    {data : Option Bytes} {payload : Payload} {body : Native Int32}
    (prepared : module.prepare role data = .ok (some payload, .code body))
    (small : payload.buffer.length < 2 ^ 64) (options : InvokeOptions) (script : Option Script)
    {post : Workplace → Int32 → Workplace → Prop}
    (ensures : ∀ place : Workplace, place.data = payload.buffer → place.held = [] →
      body.Ensures place (post place)) :
    let acts := session.callActs module (.hook role (some payload) (.code body) options) script
    let place := fun buffer own => Workplace.start buffer own options.policy payload.buffer
      (options.startContext (some payload))
    ∃ buffer own code last, post (place buffer own) code last ∧
      (session.hook module role data options (script.map Script.run)).1 =
        last.outcome module role code ∧
      requestsOf acts = last.requests ∧ handedOut acts = last.handed ∧
      ∀ id ∈ handedOut acts,
        (session.hook module role data options (script.map Script.run)).2.2.rig.contexts id = none := by
  intro acts place
  let call := Call.hook role (some payload) (.code body) options
  have start := Call.offers_start module session.rig role payload (.code body) options small
  obtain ⟨last, holds, -, offers, handed⟩ := ensures _ rfl rfl _ _ start
  refine ⟨_, _, _, last, holds, ?_, ?_, handed.symm, fun id member => ?_⟩
  · -- the code ends over the buffer and the context that it was started with
    obtain ⟨own, buffer⟩ := offers.same start (body.run_tables _ _)
    have finished := offers.finish module role payload.size (session.ended module call script).code
    rw [own, buffer] at finished
    rw [session.hook_eq module role data options script prepared]
    exact finished
  · obtain ⟨armed, running, account, -⟩ := session.accounts_before module call script
      (body.isServed_of_mem _ _) (List.append_nil _).symm
    obtain ⟨tracked, recorded, -⟩ := offers.record
    have same : some armed = some _ := running.symm.trans recorded
    exact account.requests.symm.trans (congrArg Armed.requests (Option.some.inj same))
  · rw [session.hook_eq module role data options script prepared]
    exact offers.gone_after (handed ▸ member) module call _

/-! ## Modules -/

namespace TestModule
variable (module : TestModule)

/-- In every session, the hook of a role succeeds on some data, and makes other data of them. -/
def Fixes (role : Role) (data fixed : Bytes) : Prop :=
  ∀ (session : Session) (script : Option Script),
    (session.hook module role (some data) {} (script.map Script.run)).1.map Invocation.data =
      .ok (some fixed)

/-- In every session, a probe succeeds on an argument, and only sets a verdict. -/
def Judges (args : ProbeArgs) (verdict : Int32) : Prop :=
  ∀ (session : Session) (script : Option Script),
    (session.probe module args (script.map Script.run)).1 = .ok (args.withRetval verdict)

variable {module}

/-- A hook fixes data as its code does, whatever else the workplace holds. -/
theorem fixes_of_ensures {role : Role} {data fixed : Bytes} {symbol : String} {body : Native Int32}
    (resolved : module.hooks role = .resolved symbol (.code body))
    (admits : role.Admits (some data)) (small : data.length < 2 ^ 64)
    (ensures : ∀ place : Workplace, place.data = role.fill data →
      body.Ensures place fun code last => code = 0 ∧ last.data = fixed) :
    module.Fixes role data fixed := by
  intro session script
  obtain ⟨payload, made, -⟩ := Payload.forRole_of_admits admits
  obtain ⟨content, lengths⟩ := Payload.content_of_forRole made
  obtain ⟨payload, rfl, buffer⟩ := Option.map_eq_some_iff.mp content
  have length : (role.fill data).length = role.fillLength data := Option.some.inj lengths
  have fill : (role.fill data).length < 2 ^ 64 := by
    rw [length]
    cases role with
    | deviceEvent => exact small
    | reportDescriptorFixup =>
      show 4096 < 2 ^ 64
      decide
  have prepared := TestModule.prepare_of_resolved made resolved
  obtain ⟨_, _, code, last, ⟨rfl, rfl⟩, outcome, -⟩ := session.hook_of_ensures prepared
    (buffer ▸ fill) {} script fun place start _ => ensures place (start.trans buffer)
  rw [outcome]
  rfl

end TestModule

/-- A verdict is all that the usual probe makes. -/
theorem TestModule.judges_of_verdict {module : TestModule} {accepts : ProbeArgs → Bool}
    (probes : module.probe = .code (Fixture.verdict accepts)) (args : ProbeArgs) :
    module.Judges args (if accepts args then 0 else -Abi.einval) := by
  intro session script
  have ended : (session.ended module (.probe args) script).code = 0 ∧
      (session.ended module (.probe args) script).frame.args =
        some (args.withRetval (if accepts args then 0 else -Abi.einval)) := by
    simp only [Session.ended, Call.entry, probes]
    exact ⟨rfl, rfl⟩
  rw [session.probe_eq]
  simp only [ProbeCall.finish, ended, if_true, Option.getD_some]

end HidRig
