import HidRig.Fixture.FeatureQuery
import HidRig.Proofs.Rig.Agree
import HidRig.Proofs.Session.Chronicle

/-! # Calls do not depend on what went before

A call arms its own table and starts its own record before native code runs, so that what earlier
calls, installed tables and calls around it left behind is not seen. A program that depends on no
address ends the same in any two sessions, however their systems choose addresses for contexts. Only
a program that goes on using a context that it gave back, when another has been made since, can tell
whether that got the same address.

* `Script.Performs`, `EntryPoint.Runs`: the program that an entry point runs.
* `Session.contextsOf`: the contexts that a call makes.
* `Session.Comparable`: two calls in which a program cannot tell addresses apart.
* `Call.start_agrees`: two calls of the same kind start on rigs that agree.
* `Session.history_independent`: their outcomes are the same.
-/

namespace HidRig

/-! ## The program of an entry point -/

/-- A script does what a program of native code does, and leaves a trace. -/
inductive Script.Performs : Script → Native Int32 → Prop
  | exit (code : Int32) : Performs (.exit code) (.done code)
  | call (service : Service) {next : service.Reply → Script} {body : service.Reply → Native Int32}
      (rest : ∀ reply, Performs (next reply) (body reply)) :
      Performs (.call service next) (.call service body)
  | note (line : Note) {next : Script} {body : Native Int32} (rest : Performs next body) :
      Performs (.note line next) body

/-- An entry point runs a program of native code, if steps come with a script. -/
inductive EntryPoint.Runs (script : Option Script) : EntryPoint → Native Int32 → Prop
  | code (body : Native Int32) : Runs script (.code body) body
  | scripted {brought : Script} {body : Native Int32} (given : script = some brought)
      (performs : brought.Performs body) : Runs script .scripted body
  | idle (given : script = none) : Runs script .scripted (.done 0)
  | helper : Runs script .helper (.done 0)

theorem Script.Performs.run {script : Script} {body : Native Int32} (h : script.Performs body) :
    ∀ (frame : Frame) (session : Session),
      let finish := script.run frame session
      (finish.code, finish.frame, finish.session.rig) = body.run frame session.rig := by
  induction h with
  | exit code => exact fun _ _ => rfl
  | call service _ ih => exact fun frame session => ih _ _ _
  | note line _ ih => exact fun frame session => ih frame session

theorem EntryPoint.Runs.runEntry {script : Option Script} {entry : EntryPoint} {body : Native Int32}
    (h : entry.Runs script body) (session : Session) (frame : Frame) :
    let finish := session.runEntry entry (script.map Script.run) frame
    (finish.code, finish.frame, finish.session.rig) = body.run frame session.rig := by
  cases h with
  | code => rfl
  | scripted given performs =>
    subst given
    exact performs.run frame session
  | idle given =>
    subst given
    rfl
  | helper => rfl

theorem Script.Performs.acts {script : Script} {body : Native Int32} (h : script.Performs body) :
    ∀ (frame : Frame) (session : Session),
      script.acts frame session = body.acts frame session.rig := by
  induction h with
  | exit code => exact fun _ _ => rfl
  | call service _ ih => exact fun frame session => congrArg (List.cons _) (ih _ _ _)
  | note line _ ih => exact fun frame session => ih frame session

theorem EntryPoint.Runs.entryActs {script : Option Script} {entry : EntryPoint} {body : Native Int32}
    (h : entry.Runs script body) (session : Session) (frame : Frame) :
    session.entryActs entry (script.map Script.acts) frame = body.acts frame session.rig := by
  cases h with
  | code => rfl
  | scripted given performs =>
    subst given
    exact performs.acts frame session
  | idle given =>
    subst given
    rfl
  | helper => rfl

/-! ## The addresses of a call -/

namespace Session

/-- The contexts that a call makes, its own first. -/
def contextsOf (session : Session) (module : TestModule) (call : Call) (script : Option Script) :
    List ContextId :=
  (call.start module session.rig).1.given.toList ++
    contextsMade (session.callActs module call script)

/-- A program cannot tell two calls apart by addresses. It takes them from its answers only. If it
goes on using contexts that it gave back, the contexts of the two calls have the same addresses, up
to renaming. -/
def Comparable (first second : Session) (m n : TestModule) (call : Call) (script : Option Script)
    (body : Native Int32) : Prop :=
  body.SelfContained .brief ∨ body.SelfContained .lasting ∧ ∃ ren : Renaming ContextId,
    ren.Matches (first.contextsOf m call script) (second.contextsOf n call script)

end Session

/-! ## The start of a call -/

/-- The buffer of a call stands for that of another. -/
def Call.buffers (r s : Rig) (call : Call) : Renaming BufferId where
  rel i j := (call.buffer r).map Prod.fst = some i ∧ (call.buffer s).map Prod.fst = some j
  unique := by
    constructor
    · exact fun _ _ _ h k => Option.some.inj (h.1.symm.trans k.1)
    · exact fun _ _ _ h k => Option.some.inj (h.2.symm.trans k.2)

/-- Nothing is known of the memories before. -/
theorem Rig.SameMemory.empty (r s : Rig) : Rig.SameMemory .empty .empty r s :=
  ⟨nofun, nofun, fun _ _ there => (there.elim id id).elim⟩

/-- Whatever was there before, calls of the same kind start on rigs that agree. -/
theorem Call.start_agrees (r s : Rig) (m n : TestModule) (call : Call) {span : Recall}
    {xs ys : List ContextId}
    (admits : Pairing.empty.Admits span ((call.start m r).1.given.toList ++ xs)
      ((call.start n s).1.given.toList ++ ys)) :
    ∃ pairs, Rig.Agrees (call.buffers r s) pairs (call.start m r).1 (call.start m r).2
      (call.start n s).1 (call.start n s).2 ∧ pairs.Admits span xs ys := by
  have nothing := Rig.SameMemory.empty r s
  cases call with
  | probe args =>
    have memory : Rig.SameMemory (Call.buffers r s (.probe args)) .empty r s :=
      ⟨nothing.contexts, nofun, nothing.live⟩
    exact ⟨.empty, Rig.Agrees.arm (f := ⟨m.file, none, args⟩) (g := ⟨n.file, none, args⟩) memory
      .none rfl .none {}, admits⟩
  | hook role payload entry options =>
    let f : Frame := ⟨m.file, some r.nextContext, none⟩
    let g : Frame := ⟨n.file, some s.nextContext, none⟩
    have admits : Pairing.empty.Admits span (r.nextContext :: xs) (s.nextContext :: ys) := by
      cases payload <;> exact admits
    have room := nothing.room admits
    have made := nothing.newContext true room (options.startContext payload)
    have given : Option.Rel (Pairing.empty.make span true _ _ room).lent f.given g.given :=
      .some (.inr ⟨rfl, rfl, rfl⟩)
    refine ⟨Pairing.empty.make span true _ _ room, ?_, admits.make⟩
    cases payload with
    | none =>
      let ren := Call.buffers r s (.hook role none entry options)
      have memory : Rig.SameMemory ren (Pairing.empty.make span true _ _ room)
          (r.newContext (options.startContext none)).2 (s.newContext (options.startContext none)).2 :=
        ⟨made.contexts, nofun, made.live⟩
      exact Rig.Agrees.arm (f := f) (g := g) memory given rfl .none _
    | some payload =>
      let ren := Call.buffers r s (.hook role (some payload) entry options)
      let r' := (r.newContext (options.startContext (some payload))).2.newBuffer payload.buffer
      let s' := (s.newContext (options.startContext (some payload))).2.newBuffer payload.buffer
      have filled : Rig.SameMemory ren (Pairing.empty.make span true _ _ room) r'.2 s'.2 := by
        refine ⟨made.contexts, ?_, made.live⟩
        rintro _ _ ⟨⟨⟩, ⟨⟩⟩
        simp [r', s', Rig.newBuffer, Rig.setBuffer, Rig.newContext, Rig.setContext]
      have attached : Option.Rel (fun x y => ren x.1 y.1 ∧ x.2 = y.2)
          (some (r'.1, payload.buffer.length)) (some (s'.1, payload.buffer.length)) :=
        .some ⟨⟨rfl, rfl⟩, rfl⟩
      exact Rig.Agrees.arm (f := f) (g := g) filled given rfl attached _

/-! ## The outcome of a call -/

/-- The same fault of another module. -/
def InvocationFault.inModule (name : String) : InvocationFault → InvocationFault
  | returnCode _ operation code => .returnCode name operation code
  | unresolvedRole _ role reason => .unresolvedRole name role reason
  | payloadTooLarge length limit => .payloadTooLarge length limit

section
variable {buffers : Renaming BufferId} {pairs : Pairing} {f g : Frame} {r s : Rig}

theorem ProbeCall.finish_agrees (h : Rig.Agrees buffers pairs f r g s) (m n : TestModule)
    (code : Int32) :
    (ProbeCall.finish n code g s).1 =
      (ProbeCall.finish m code f r).1.mapError (·.inModule n.name) := by
  unfold ProbeCall.finish
  dsimp only
  rw [h.args]
  split <;> rfl

theorem HookCall.finish_agrees (h : Rig.Agrees buffers pairs f r g s) (m n : TestModule)
    {c d : HookCall} (role : c.role = d.role) (context : f.given = some c.context)
    (context' : g.given = some d.context) (buffer : Option.Rel buffers.rel c.buffer d.buffer)
    (code : Int32) :
    (HookCall.finish n d code s).1 =
      (HookCall.finish m c code r).1.mapError (·.inModule n.name) := by
  obtain ⟨report, contexts, memory⟩ := h.disarm m.file n.file
  have data : c.buffer.bind (r.disarm m.file).2.buffers =
      d.buffer.bind (s.disarm n.file).2.buffers := by
    generalize c.buffer = x at buffer ⊢
    generalize d.buffer = y at buffer ⊢
    cases buffer with
    | none => rfl
    | some same => exact memory _ _ same
  have known : pairs.known c.context d.context := by
    have given := h.given_of_lent fun _ _ => pairs.known_of_lent
    rw [context, context'] at given
    cases given with
    | some known => exact known
  unfold HookCall.finish
  dsimp only
  rw [report, data, contexts _ _ known, role]
  split <;> rfl

end

theorem Payload.forRole_error {role : Role} {data : Option Bytes} {fault : InvocationFault}
    (h : Payload.forRole role data = .error fault) :
    ∃ length limit, fault = .payloadTooLarge length limit := by
  cases data with
  | none => cases role <;> cases h
  | some bytes =>
    cases role with
    | deviceEvent => cases h
    | reportDescriptorFixup =>
      simp only [Payload.forRole, Payload.ofDescriptor?] at h
      split at h
      · cases h
        exact ⟨_, _, rfl⟩
      · cases h

theorem TestModule.prepare_inModule {m n : TestModule} (hooks : m.hooks = n.hooks) (role : Role)
    (data : Option Bytes) :
    n.prepare role data = (m.prepare role data).mapError (·.inModule n.name) := by
  unfold TestModule.prepare
  rw [TestModule.hookEntry_eq, TestModule.hookEntry_eq, hooks]
  cases hp : Payload.forRole role data with
  | error fault =>
    obtain ⟨length, limit, rfl⟩ := Payload.forRole_error hp
    rfl
  | ok payload => cases n.hooks role <;> rfl

theorem TestModule.hooks_of_prepare {m : TestModule} {role : Role} {data : Option Bytes}
    {payload : Option Payload} {entry : EntryPoint}
    (h : m.prepare role data = .ok (payload, entry)) :
    ∃ symbol, m.hooks role = .resolved symbol entry := by
  have found := (TestModule.prepare_eq_ok_iff.mp h).2
  rw [TestModule.hookEntry_eq] at found
  cases hm : m.hooks role with
  | resolved symbol other =>
    rw [hm] at found
    cases found
    exact ⟨symbol, rfl⟩
  | unresolved reason =>
    rw [hm] at found
    cases found

/-- Native code keeps the context that it was given. -/
theorem Native.run_given {α : Type} : ∀ (body : Native α) (frame : Frame) (rig : Rig),
    (body.run frame rig).2.1.given = frame.given
  | .done _, _, _ => rfl
  | .call service next, frame, rig => by
    have kept : (rig.serve frame service).2.1.given = frame.given := by cases service <;> rfl
    exact ((next _).run_given _ _).trans kept

namespace Session
variable (first second : Session) (m n : TestModule) (call : Call) (script : Option Script)
  {body : Native Int32}

/-- A program that cannot tell addresses ends alike in calls of the same kind. -/
theorem ended_agrees (comparable : first.Comparable second m n call script body)
    (runs : (call.entry m).Runs script body) (runs' : (call.entry n).Runs script body) :
    let ended := first.ended m call script
    let ended' := second.ended n call script
    ended.code = ended'.code ∧
      ended.frame.given = (call.start m first.rig).1.given ∧
      ended'.frame.given = (call.start n second.rig).1.given ∧
      ∃ pairs, Rig.Agrees (call.buffers first.rig second.rig) pairs ended.frame ended.session.rig
        ended'.frame ended'.session.rig := by
  intro ended ended'
  obtain ⟨span, self, admits⟩ : ∃ span, body.SelfContained span ∧
      Pairing.empty.Admits span (first.contextsOf m call script)
        (second.contextsOf n call script) := by
    rcases comparable with self | ⟨self, ren, matching⟩
    · exact ⟨.brief, self, trivial⟩
    · exact ⟨.lasting, self, ren, nofun, matching⟩
  have acts : first.callActs m call script = _ :=
    runs.entryActs (first.begun m call) (call.start m first.rig).1
  have acts' : second.callActs n call script = _ :=
    runs'.entryActs (second.begun n call) (call.start n second.rig).1
  rw [contextsOf, contextsOf, acts, acts'] at admits
  obtain ⟨pairs, started, admits⟩ := call.start_agrees first.rig second.rig m n admits
  have left : (ended.code, ended.frame, ended.session.rig) =
      body.run (call.start m first.rig).1 (call.start m first.rig).2 :=
    runs.runEntry (first.begun m call) (call.start m first.rig).1
  have right : (ended'.code, ended'.frame, ended'.session.rig) =
      body.run (call.start n second.rig).1 (call.start n second.rig).2 :=
    runs'.runEntry (second.begun n call) (call.start n second.rig).1
  obtain ⟨last, code, agrees⟩ := (self _ pairs).run started admits
  have given := body.run_given (call.start m first.rig).1 (call.start m first.rig).2
  have given' := body.run_given (call.start n second.rig).1 (call.start n second.rig).2
  rw [← left] at code agrees given
  rw [← right] at code agrees given'
  exact ⟨code, given, given', last, agrees⟩

end Session

namespace Fixture.FeatureQuery
variable {buffers : Renaming BufferId} {span : Recall} {pairs : Pairing} {w w' : Window}
  (answer : Int32 × Bytes) (windows : w.Alike buffers w')
include windows

theorem store_alike :
    (store answer w).Alike buffers span (fun _ => Eq) pairs (store answer w') := by
  unfold store
  split
  · exact .done rfl
  · refine (Native.Alike.write windows _ _).bind fun _ _ _ _ => ?_
    refine Native.Alike.context.bind fun _ ctx _ ⟨same, _⟩ => ?_
    cases same
    exact (Native.Alike.setContext _).bind fun _ _ _ _ => .done rfl

theorem settle_alike {i j : ContextId} (known : pairs.known i j) :
    (settle i answer w).Alike buffers span (fun _ => Eq) pairs (settle j answer w') := by
  refine (Native.Alike.read windows 1 1).bind fun next marker _ ⟨same, here⟩ => ?_
  cases same
  subst here
  dsimp only
  split
  · exact (Native.Alike.release (.some known)).bind fun _ _ _ _ => store_alike answer windows
  · exact store_alike answer windows

omit windows in
/-- The hook that asks the device depends on no address. -/
theorem hook_selfContained : hook.SelfContained span := by
  intro buffers pairs
  refine Native.Alike.context.bind fun _ started _ ⟨same, here⟩ => ?_
  cases same
  subst here
  refine (Native.Alike.getData 0 reportSize).bind fun next x y ⟨windows, here⟩ => ?_
  subst here
  cases windows with
  | none => exact .done rfl
  | some windows =>
    refine (Native.Alike.allocate started.index).bind fun next x y ⟨i, j, left, right, made, _⟩ => ?_
    subst left right
    refine (Native.Alike.request (.some made.made) query .feature .getReport).bind
      fun last answer _ ⟨same, here⟩ => ?_
    cases same
    subst here
    exact settle_alike answer windows made.made

end Fixture.FeatureQuery

/-- Native code that makes a request with a context that it gave back, after it got another one. -/
def Native.requestAfter : Native Int32 := do
  let first ← Native.allocate 1
  Native.release first
  let _ ← Native.allocate 2
  let _ ← Native.request first [] .feature .getReport
  pure 0

theorem Native.requestAfter_selfContained : requestAfter.SelfContained .lasting := by
  intro buffers pairs
  refine (Alike.allocate 1).bind fun first x y ⟨i, j, left, right, made, _⟩ => ?_
  subst left right
  refine (Alike.release (.some made.made)).bind fun back _ _ here => ?_
  subst here
  refine (Alike.allocate 2).bind fun second _ _ ⟨_, _, _, _, again, _⟩ => ?_
  have known : second.known i j := again.known i j made.made
  exact (Alike.request (.some known) [] .feature .getReport).bind fun _ _ _ _ => .done rfl

/-- It can tell whether the first free address is given or one that no context had before. -/
example :
    let indices (allocator : Allocator) :=
      let session := Session.startWith (UsualLoader.ofVariable none).system allocator Disk.empty []
        fun _ => none
      (session.hook (.uniform ⟨1⟩ (.code .requestAfter)) .deviceEvent none {} none).1.toOption.map
        fun invocation => invocation.requests.map RequestRecord.hid
    indices .firstFit = some [some 2] ∧ indices .counting = some [none] := by
  decide +kernel

end HidRig
