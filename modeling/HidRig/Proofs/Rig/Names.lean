import HidRig.Proofs.Session.Independence

/-! # The names in what is reported

A report of a call tells the name of the module that was called, and nothing that the rig does
depends on it. Rigs that differ in such names alone go on alike.

* `Event.anonymous`, `anonymousOutcome`: a report and an outcome without the name.
* `Rig.SameButNames`: rigs that differ in names at most.
* `TestModule.Alike`: modules of one file that do the same.
* `Rig.SameButNames.serve`, `Rig.SameButNames.start`, `Rig.SameButNames.finishProbe`,
  `Rig.SameButNames.finishHook`: what native code and calls make of such rigs.
-/

namespace HidRig

/-- A report without the name of the module that was called. -/
def Event.anonymous : Event → Event
  | probed _ code retval => .probed "" code retval
  | hooked _ role code size requests => .hooked "" role code size requests
  | event => event

/-- The outcome of a call without the name. -/
def anonymousOutcome {α : Type} (outcome : Except InvocationFault α) : Except InvocationFault α :=
  outcome.mapError (·.inModule "")

/-- Two rigs that differ at most in the names that were reported. -/
structure Rig.SameButNames (r s : Rig) : Prop where
  tables : s.tables = r.tables
  armed : s.armed = r.armed
  contexts : s.contexts = r.contexts
  allocator : s.allocator = r.allocator
  contextCount : s.contextCount = r.contextCount
  buffers : s.buffers = r.buffers
  bufferCount : s.bufferCount = r.bufferCount
  output : s.output = r.output
  log : s.log.map Event.anonymous = r.log.map Event.anonymous

/-- Modules of one file that do the same. -/
structure TestModule.Alike (m n : TestModule) : Prop where
  file : m.file = n.file
  probe : m.probe = n.probe
  hooks : m.hooks = n.hooks

theorem TestModule.Alike.refl (m : TestModule) : m.Alike m :=
  ⟨rfl, rfl, rfl⟩

namespace Rig.SameButNames
variable {r s : Rig}

theorem refl (r : Rig) : r.SameButNames r :=
  ⟨rfl, rfl, rfl, rfl, rfl, rfl, rfl, rfl, rfl⟩

theorem report (h : r.SameButNames s) {event other : Event}
    (same : other.anonymous = event.anonymous) : (r.report event).SameButNames (s.report other) :=
  { h with log := by simp [Rig.report, h.log, same] }

theorem reportAll (h : r.SameButNames s) (events : List Event) :
    (r.reportAll events).SameButNames (s.reportAll events) :=
  { h with log := by simp [Rig.reportAll, h.log] }

theorem setArmed (h : r.SameButNames s) (armed : Option Armed) :
    SameButNames { r with armed } { s with armed } :=
  { h with armed := rfl }

theorem setTable (h : r.SameButNames s) (file : FileId) (table : ServiceTable) :
    (r.setTable file table).SameButNames (s.setTable file table) :=
  { h with tables := by simp only [Rig.setTable, h.tables] }

theorem setContext (h : r.SameButNames s) (id : ContextId) (ctx? : Option HookContext) :
    (r.setContext id ctx?).SameButNames (s.setContext id ctx?) :=
  { h with contexts := by simp only [Rig.setContext, h.contexts] }

theorem setBuffer (h : r.SameButNames s) (id : BufferId) (bytes? : Option Bytes) :
    (r.setBuffer id bytes?).SameButNames (s.setBuffer id bytes?) :=
  { h with buffers := by simp only [Rig.setBuffer, h.buffers] }

theorem freeContexts (h : r.SameButNames s) (ids : List ContextId) :
    (r.freeContexts ids).SameButNames (s.freeContexts ids) :=
  { h with contexts := by simp only [Rig.freeContexts, h.contexts] }

theorem nextContext (h : r.SameButNames s) : s.nextContext = r.nextContext := by
  rw [Rig.nextContext, h.allocator, h.contextCount, h.contexts]
  rfl

theorem newContext (h : r.SameButNames s) (ctx : HookContext) :
    (s.newContext ctx).1 = (r.newContext ctx).1 ∧
      (r.newContext ctx).2.SameButNames (s.newContext ctx).2 := by
  have counted : SameButNames { r with contextCount := r.contextCount + 1 }
      { s with contextCount := s.contextCount + 1 } :=
    { h with contextCount := congrArg (· + 1) h.contextCount }
  have made := counted.setContext r.nextContext (some ctx)
  unfold Rig.newContext
  rw [h.nextContext]
  exact ⟨rfl, made⟩

theorem newBuffer (h : r.SameButNames s) (bytes : Bytes) :
    (s.newBuffer bytes).1 = (r.newBuffer bytes).1 ∧
      (r.newBuffer bytes).2.SameButNames (s.newBuffer bytes).2 := by
  have counted : SameButNames { r with bufferCount := r.bufferCount + 1 }
      { s with bufferCount := s.bufferCount + 1 } :=
    { h with bufferCount := congrArg (· + 1) h.bufferCount }
  have made := counted.setBuffer ⟨r.bufferCount⟩ (some bytes)
  unfold Rig.newBuffer
  rw [h.bufferCount] at made ⊢
  exact ⟨rfl, made⟩

theorem bareTable (h : r.SameButNames s) (data : Option Bytes) :
    (s.bareTable data).1 = (r.bareTable data).1 ∧
      (r.bareTable data).2.SameButNames (s.bareTable data).2 := by
  cases data with
  | none => exact ⟨rfl, h⟩
  | some bytes =>
    obtain ⟨buffer, made⟩ := h.newBuffer bytes
    unfold Rig.bareTable
    dsimp only
    rw [buffer]
    exact ⟨rfl, made⟩

/-! ## Services -/

theorem allocate (h : r.SameButNames s) (file : FileId) (hid : UInt32) :
    (s.allocate file hid).1 = (r.allocate file hid).1 ∧
      (r.allocate file hid).2.SameButNames (s.allocate file hid).2 := by
  unfold Rig.allocate
  rw [h.tables, h.armed]
  split
  · cases r.armed with
    | none => exact ⟨rfl, h.report rfl⟩
    | some armed =>
      obtain ⟨same, made⟩ := h.newContext (.allocated hid)
      dsimp only
      rw [same]
      exact ⟨rfl, made.setArmed _⟩
  · exact ⟨rfl, h⟩

theorem release (h : r.SameButNames s) (file : FileId) (ctx : ContextRef) :
    (r.release file ctx).SameButNames (s.release file ctx) := by
  cases ctx with
  | none => exact h
  | some id =>
    unfold Rig.release
    dsimp only
    rw [h.tables, h.armed]
    split
    · cases r.armed with
      | none => exact h.report rfl
      | some armed =>
        dsimp only
        split
        · -- one context less is on the list, and it is freed
          exact { h with
            tables := rfl
            armed := rfl
            contexts := by simp only [Rig.setContext, h.contexts] }
        · exact h.report rfl
    · exact h

theorem request (h : r.SameButNames s) (file : FileId) (ctx : ContextRef) (data : Option Bytes)
    (length : Nat) (reportType requestKind : Int32) :
    (s.request file ctx data length reportType requestKind).1 =
        (r.request file ctx data length reportType requestKind).1 ∧
      (r.request file ctx data length reportType requestKind).2.SameButNames
        (s.request file ctx data length reportType requestKind).2 := by
  unfold Rig.request
  rw [h.tables, h.armed]
  split
  · cases r.armed with
    | none => exact ⟨rfl, h.report rfl⟩
    | some armed =>
      have index : s.trackedIndex armed ctx = r.trackedIndex armed ctx := by
        simp only [Rig.trackedIndex, h.contexts]
      dsimp only
      rw [index]
      exact ⟨rfl, { h with tables := rfl, armed := rfl }⟩
  · exact ⟨rfl, h⟩

/-- A step of native code is answered alike. -/
theorem serve (h : r.SameButNames s) (frame : Frame) (service : Service) :
    (s.serve frame service).1 = (r.serve frame service).1 ∧
      (s.serve frame service).2.1 = (r.serve frame service).2.1 ∧
      (r.serve frame service).2.2.SameButNames (s.serve frame service).2.2 := by
  cases service with
  | getData offset size =>
    refine ⟨?_, rfl, h⟩
    show s.getData frame.file offset size = r.getData frame.file offset size
    rw [Rig.getData, Rig.getData, h.tables]
  | read window size =>
    refine ⟨?_, rfl, h⟩
    show s.readWindow window size = r.readWindow window size
    rw [Rig.readWindow, Rig.readWindow, h.buffers]
  | write window bytes =>
    refine ⟨rfl, rfl, ?_⟩
    simp only [Rig.serve, Rig.writeWindow, h.buffers]
    exact h.setBuffer _ _
  | allocate hid =>
    obtain ⟨same, after⟩ := h.allocate frame.file hid
    exact ⟨same, rfl, after⟩
  | release ctx => exact ⟨rfl, rfl, h.release frame.file ctx⟩
  | request ctx data length reportType requestKind =>
    obtain ⟨same, after⟩ := h.request frame.file ctx data length reportType requestKind
    exact ⟨same, rfl, after⟩
  | ownContext ctx =>
    obtain ⟨same, after⟩ := h.newContext ctx
    exact ⟨same, rfl, after⟩
  | readContext id => exact ⟨congrArg (· id) h.contexts, rfl, h⟩
  | writeContext id ctx =>
    refine ⟨rfl, rfl, ?_⟩
    simp only [Rig.serve, h.contexts]
    exact h.setContext _ _
  | print text => exact ⟨rfl, rfl, { h with output := congrArg (· ++ text) h.output }⟩
  | given => exact ⟨rfl, rfl, h⟩
  | readArgs => exact ⟨rfl, rfl, h⟩
  | writeArgs args => exact ⟨rfl, rfl, h⟩

/-! ## Calls -/

theorem arm (h : r.SameButNames s) (file : FileId) (buffer : Option (BufferId × Nat))
    (policy : RequestPolicy) : (r.arm file buffer policy).SameButNames (s.arm file buffer policy) := by
  have told : (if r.armed.isSome then r.report .bridgeReplaced else r).SameButNames
      (if s.armed.isSome then s.report .bridgeReplaced else s) := by
    rw [h.armed]
    split
    · exact h.report rfl
    · exact h
  exact (told.setArmed _).setTable file _

theorem disarm (h : r.SameButNames s) (file : FileId) :
    (s.disarm file).1 = (r.disarm file).1 ∧
      (r.disarm file).2.SameButNames (s.disarm file).2 := by
  have detached := h.setTable file .disarmed
  have armed : s.armed = r.armed := h.armed
  unfold Rig.disarm
  dsimp only
  rw [detached.armed]
  cases (r.setTable file .disarmed).armed with
  | none => exact ⟨rfl, detached⟩
  | some armed =>
    have freed := (detached.setArmed none).freeContexts armed.tracked
    refine ⟨rfl, ?_⟩
    dsimp only
    split
    · exact freed.report rfl
    · exact freed

variable {m n : TestModule}

/-- Calls of modules that do the same start alike. -/
theorem start (h : r.SameButNames s) (alike : m.Alike n) (call : Call) :
    (call.start n s).1 = (call.start m r).1 ∧
      (call.start m r).2.SameButNames (call.start n s).2 := by
  cases call with
  | probe args =>
    simp only [Call.start, ProbeCall.start, alike.file]
    exact ⟨trivial, h.arm n.file none {}⟩
  | hook role payload entry options =>
    obtain ⟨context, made⟩ := h.newContext (options.startContext payload)
    simp only [Call.start, HookCall.start, alike.file]
    cases payload with
    | none =>
      dsimp only
      rw [context]
      exact ⟨rfl, made.arm n.file none options.policy⟩
    | some payload =>
      obtain ⟨buffer, filled⟩ := made.newBuffer payload.buffer
      dsimp only
      rw [context, buffer]
      exact ⟨rfl, filled.arm n.file _ options.policy⟩

theorem startHook (h : r.SameButNames s) (m n : TestModule) (role : Role)
    (payload : Option Payload) (options : InvokeOptions) :
    (HookCall.start n role payload options s).1 = (HookCall.start m role payload options r).1 := by
  obtain ⟨context, made⟩ := h.newContext (options.startContext payload)
  unfold HookCall.start
  cases payload with
  | none =>
    dsimp only
    rw [context]
  | some payload =>
    obtain ⟨buffer, -⟩ := made.newBuffer payload.buffer
    dsimp only
    rw [context, buffer]

/-- A probe ends alike, but for the name of the module. -/
theorem finishProbe (h : r.SameButNames s) (alike : m.Alike n) (code : Int32) (frame : Frame) :
    anonymousOutcome (ProbeCall.finish n code frame s).1 =
        anonymousOutcome (ProbeCall.finish m code frame r).1 ∧
      (ProbeCall.finish m code frame r).2.SameButNames (ProbeCall.finish n code frame s).2 := by
  obtain ⟨-, after⟩ := h.disarm n.file
  unfold ProbeCall.finish
  dsimp only
  rw [alike.file]
  refine ⟨?_, after.report rfl⟩
  split <;> rfl

/-- A hook ends alike, but for the name of the module. -/
theorem finishHook (h : r.SameButNames s) (alike : m.Alike n) (call : HookCall) (code : Int32) :
    anonymousOutcome (HookCall.finish n call code s).1 =
        anonymousOutcome (HookCall.finish m call code r).1 ∧
      (HookCall.finish m call code r).2.SameButNames (HookCall.finish n call code s).2 := by
  obtain ⟨report, after⟩ := h.disarm n.file
  unfold HookCall.finish
  dsimp only
  rw [alike.file, report, after.contexts, after.buffers]
  have gone := after.setContext call.context none
  refine ⟨?_, ?_⟩
  · split <;> rfl
  · cases call.buffer with
    | none => exact gone.report rfl
    | some id => exact (gone.setBuffer id none).report rfl

end Rig.SameButNames

end HidRig
