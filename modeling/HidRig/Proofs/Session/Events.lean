import HidRig.Proofs.Probes.Contract

/-! # What a call reports

A call whose native code takes no steps of its session reports what goes wrong with contexts, and
ends with one event of its own. All of it is told from the record of the native code and its code,
also when the call fails.

* `Act.warning?`: what an act of native code reports.
* `Accounts.serve_log`, `Warned`: a step of native code reports that and nothing else.
* `Alone.log`: a run reports what its acts report.
* `Call.closing`, `reportsOf`: the event that a call ends with, and all that it reports.
* `Session.call_reported`: every call that starts while no other runs.
-/

namespace HidRig

/-! ## Warnings -/

/-- The warning of an act, while some contexts are held: it gives back a context that is none of
them. -/
def Act.warning? (ids : List ContextId) (act : Act) : Option Event :=
  (act.givesBack?.filter fun id => id ∉ ids).map fun _ => .strayRelease

/-- What some acts report, in order. -/
def warningsOf (acts : List Act) : List Event :=
  noted Act.warning? [] acts

/-- All that a call reports: what its acts report, what is left over, and its last event. -/
def reportsOf (acts : List Act) (last : Event) : List Event :=
  warningsOf acts ++ leakWarnings (held acts).length ++ [last]

theorem Act.warning?_eq_some_iff {ids : List ContextId} {act : Act} {event : Event} :
    act.warning? ids = some event ↔
      event = .strayRelease ∧ ∃ id, act.givesBack? = some id ∧ id ∉ ids := by
  simp only [warning?, Option.map_eq_some_iff, Option.filter_eq_some_iff, decide_eq_true_eq]
  constructor
  · rintro ⟨id, back, rfl⟩
    exact ⟨rfl, id, back⟩
  · rintro ⟨rfl, id, back⟩
    exact ⟨id, back, rfl⟩

theorem Act.givesBack?_served {rig : Rig} {frame : Frame} {service : Service} {id : ContextId} :
    (Act.served rig frame service).givesBack? = some id ↔ service = .release (some id) := by
  cases service <;> simp [givesBack?]

theorem eq_strayRelease_of_mem_noted {event : Event} {acts : List Act} {ids : List ContextId}
    (member : event ∈ noted Act.warning? ids acts) : event = .strayRelease := by
  induction acts generalizing ids with
  | nil => cases member
  | cons act acts ih =>
    rcases List.mem_append.mp member with here | later
    · exact (Act.warning?_eq_some_iff.mp (Option.mem_toList.mp here)).1
    · exact ih later

theorem level_of_mem_reportsOf {acts : List Act} {last event : Event}
    (member : event ∈ (reportsOf acts last).dropLast) : event.level = .warn := by
  rw [reportsOf, List.dropLast_concat] at member
  rcases List.mem_append.mp member with stray | left
  · rw [eq_strayRelease_of_mem_noted stray]
    rfl
  · unfold leakWarnings at left
    split at left
    · rw [List.mem_singleton.mp left]
      rfl
    · cases left

/-! ## Runs -/

theorem Accounts.serve_log {policy : RequestPolicy} {acts : List Act} {rig : Rig} {armed : Armed}
    {frame : Frame} (h : Accounts policy acts rig armed) (running : rig.armed = some armed)
    (filled : (rig.tables frame.file).Filled) (service : Service) :
    (rig.serve frame service).2.2.log =
      rig.log ++ ((Act.served rig frame service).warning? (held acts)).toList := by
  cases service with
  | allocate hid =>
    show (rig.allocate frame.file hid).2.log = _
    rw [Rig.allocate_of_armed filled running hid]
    exact (List.append_nil _).symm
  | request ctx data length reportType requestKind =>
    show (rig.request frame.file ctx data length reportType requestKind).2.log = _
    rw [Rig.request_of_armed ctx data length reportType requestKind filled running]
    exact (List.append_nil _).symm
  | release ctx =>
    cases ctx with
    | none => exact (List.append_nil _).symm
    | some id =>
      show (rig.release frame.file (some id)).log = _
      by_cases tracked : id ∈ armed.tracked
      · have mem := (h.mem_tracked_iff id).mp tracked
        rw [Rig.release_of_tracked filled running tracked]
        simp [Act.warning?, Act.givesBack?, mem, Option.filter, Rig.setContext]
      · have mem : id ∉ held acts := fun mem => tracked ((h.mem_tracked_iff id).mpr mem)
        rw [Rig.release_of_stray filled running tracked]
        simp [Act.warning?, Act.givesBack?, mem, Option.filter, Rig.report]
  | _ => exact (List.append_nil _).symm

/-- Native code on its own reports what its acts report. -/
theorem Alone.log {silent : Prop} (quiet : silent) {policy : RequestPolicy} {frame last : Frame}
    {r t : Rig} {acts : List Act} (h : Alone silent frame r acts last t) :
    ∀ {pre : List Act} {armed : Armed}, Accounts policy pre r armed → r.armed = some armed →
      (r.tables frame.file).Filled → t.log = r.log ++ noted Act.warning? (held pre) acts := by
  induction h with
  | done between =>
    intro pre armed _ _ _
    rw [between.log quiet]
    exact (List.append_nil _).symm
  | @served frame _ r s _ acts between service _ ih =>
    intro pre armed account running filled
    have account := account.aside between.aside
    have running := between.aside.armed.trans running
    have filled : (s.tables frame.file).Filled := by rwa [between.aside.tables]
    have here := account.serve_log running filled service
    obtain ⟨armed', running', account'⟩ := account.serve running filled service
    have filled' :
        ((s.serve frame service).2.2.tables (s.serve frame service).2.1.file).Filled := by
      rwa [Rig.serve_tables, Rig.serve_file]
    rw [ih account' running' filled', here, between.log quiet, held_concat, noted,
      List.append_assoc]

/-! ## Calls -/

/-- What a step of native code reports, after some acts: one warning if it gives back a context that
is not outstanding, and nothing otherwise. -/
structure Warned (pre : List Act) (before : Rig) (frame : Frame) (service : Service) : Prop where
  log : (before.serve frame service).2.2.log =
    before.log ++ ((Act.served before frame service).warning? (held pre)).toList
  stray : ∀ event, (Act.served before frame service).warning? (held pre) = some event ↔
    event = .strayRelease ∧ ∃ id, service = .release (some id) ∧ ¬ Outstanding pre id

theorem Session.warned (session : Session) (module : TestModule) (call : Call)
    (script : Option Script) (own : ∀ act ∈ session.callActs module call script, act.IsServed)
    {pre post : List Act} {before : Rig} {frame : Frame} {service : Service}
    (split : session.callActs module call script = pre ++ .served before frame service :: post) :
    Warned pre before frame service := by
  obtain ⟨armed, running, account, filled⟩ :=
    session.account_of_served module call script own split
  refine ⟨account.serve_log running filled service, fun event => ?_⟩
  simp only [Act.warning?_eq_some_iff, Act.givesBack?_served, mem_held_iff]

/-- The event that a call ends with, by the record of its native code. -/
def Call.closing (module : TestModule) (code : Int32) (acts : List Act) : Call → Event
  | probe args => .probed module.name code (leftBy acts args).retval
  | hook role payload _ _ =>
    .hooked module.name role code ((payload.map Payload.size).getD 0) (acts.countP Act.isRequest)

/-- A call that starts while no other runs reports nothing at its start. -/
theorem Call.start_log {rig : Rig} (idle : rig.armed = none) (module : TestModule) (call : Call) :
    (call.start module rig).2.log = rig.log := by
  cases call with
  | probe args => simp [Call.start, ProbeCall.start, Rig.arm, idle, Rig.setTable]
  | hook role payload entry options =>
    cases payload <;>
      simp [Call.start, HookCall.start, Rig.arm, Rig.newContext, Rig.newBuffer, Rig.setContext,
        Rig.setBuffer, Rig.setTable, idle]

theorem Call.event_eq_closing {module : TestModule} {code : Int32} {frame : Frame}
    {acts : List Act} {n : Nat} {call : Call} (counted : n = acts.countP Act.isRequest)
    (left : ∀ args, call = .probe args → frame.args = some (leftBy acts args)) :
    call.event module code frame n = call.closing module code acts := by
  cases call with
  | probe args => rw [event, left args rfl]; rfl
  | hook role payload entry options => rw [event, counted, closing]

theorem Session.log_called (session : Session) (idle : session.rig.armed = none)
    (module : TestModule) (call : Call) (script : Option Script)
    (own : ∀ act ∈ session.callActs module call script, act.IsServed)
    (alone : session.callSteps module call (script.map Script.steps) = []) :
    let acts := session.callActs module call script
    let ended := session.ended module call script
    (session.called module call script).rig.log =
      session.rig.log ++ reportsOf acts (call.closing module ended.code acts) := by
  intro acts ended
  obtain ⟨armed, running, account, -⟩ :=
    session.accounts_before module call script own (List.append_nil _).symm
  have run := session.alone_ended True script module call own fun _ => alone
  have counted : armed.requests.length = acts.countP Act.isRequest := by
    rw [account.requests]
    exact length_noted_request [] acts
  have log : ended.session.rig.log = session.rig.log ++ warningsOf acts := by
    rw [run.log trivial (.start call.policy _) (Call.start_armed ..)
      (by rw [Call.start_file]; exact call.start_filled module session.rig),
      call.start_log idle]
    rfl
  have ends : ended.session.rig.disarm module.file = _ := Rig.disarm_of_armed running
  have last : call.event module ended.code ended.frame armed.requests.length =
      call.closing module ended.code acts := by
    refine Call.event_eq_closing counted fun args same => ?_
    subst same
    exact run.args_eq rfl
  rw [Session.called, Call.finish_log, ends]
  show ended.session.rig.log ++ leakWarnings armed.tracked.length ++
    [call.event module ended.code ended.frame armed.requests.length] = _
  rw [log, last, account.tracked.length_eq, reportsOf]
  simp only [List.append_assoc, acts]

/-! ## Payloads -/

/-- The size of a payload is the length of the data, whatever the length of its buffer. -/
theorem Payload.size_of_forRole {role : Role} {data : Option Bytes} {payload : Option Payload}
    (made : forRole role data = .ok payload) : payload.map Payload.size = data.map List.length := by
  have admits : role.Admits data := by
    cases data with
    | none => cases role <;> trivial
    | some bytes =>
      cases role with
      | deviceEvent => trivial
      | reportDescriptorFixup =>
        by_contra long
        rw [forRole_of_long (Nat.lt_of_not_le long)] at made
        cases made
  obtain ⟨_, same, sizes⟩ := forRole_of_admits admits
  cases made.symm.trans same
  exact sizes

/-! ## Steps -/

namespace Session
variable {session : Session} {handle : String} {module : TestModule}

theorem withIdle_of_idle? (found : session.idle? handle = some module)
    (locks : TestModule → Bool) (go : TestModule → Outcome × Session) :
    session.withIdle handle locks go = go module := by
  obtain ⟨there, free⟩ := Option.filter_eq_some_iff.mp found
  have free : session.isRunning module = false := by simpa using free
  simp only [withIdle, withModule, there, free, Bool.and_false]
  rfl

theorem events_take_probe (found : session.quiet.idle? handle = some module) (args : ProbeArgs)
    (script : Option Script) :
    (session.take (.probe handle (some args)) script).1.events =
      (session.quiet.probe module args (script.map Script.run)).2.2.rig.log := by
  simp only [take, perform, withIdle_of_idle? found]

theorem events_take_hook (found : session.quiet.idle? handle = some module) (role : Role)
    (data : Option Bytes) (options : Option InvokeOptions) (script : Option Script) :
    (session.take (.hook handle role data options) script).1.events =
      (session.quiet.hook module role data (options.getD {})
        (script.map Script.run)).2.2.rig.log := by
  simp only [take, perform, withIdle_of_idle? found]

end Session

/-- A call that starts while no other runs, and whose native code takes no steps, reports one
warning for each context given back that was not outstanding, one with the number of contexts left
over if there are any, and at last what was called, with the code that it returned. A probe tells
its verdict, and a hook the size of its data and the number of its requests. It is the same if the
call fails. -/
theorem Session.call_reported (session : Session) (idle : session.rig.armed = none)
    (module : TestModule) (call : Call) (script : Option Script)
    (own : ∀ act ∈ session.callActs module call script, act.IsServed)
    (alone : session.callSteps module call (script.map Script.steps) = []) :
    let acts := session.callActs module call script
    let code := (session.ended module call script).code
    (∀ pre before frame service post, acts = pre ++ .served before frame service :: post →
      Warned pre before frame service) ∧
    (∀ last, ∀ event ∈ (reportsOf acts last).dropLast, event.level = .warn) ∧
    (∀ args, call = .probe args →
      let outcome := session.probe module args (script.map Script.run)
      let last := Event.probed module.name code (leftBy acts args).retval
      last.level = .debug ∧
      outcome.2.2.rig.log = session.rig.log ++ reportsOf acts last ∧
      (code ≠ 0 → outcome.1 = .error (.returnCode module.name .probe code)) ∧
      ∀ (earlier : Session) (handle : String),
        earlier.quiet = session → session.idle? handle = some module →
        (earlier.take (.probe handle (some args)) script).1.events = reportsOf acts last) ∧
    ∀ role payload entry options data, call = .hook role payload entry options →
      module.prepare role data = .ok (payload, entry) →
      let outcome := session.hook module role data options (script.map Script.run)
      let size := (data.map List.length).getD 0
      let last := Event.hooked module.name role code size (acts.countP Act.isRequest)
      last.level = .debug ∧
      outcome.2.2.rig.log = session.rig.log ++ reportsOf acts last ∧
      (code ≠ 0 → outcome.1 = .error (.returnCode module.name (.hook role) code)) ∧
      ∀ (earlier : Session) (handle : String) (given : Option InvokeOptions),
        earlier.quiet = session → session.idle? handle = some module → given.getD {} = options →
        (earlier.take (.hook handle role data given) script).1.events = reportsOf acts last := by
  intro acts code
  have log := session.log_called idle module call script own alone
  refine ⟨fun _ _ _ _ _ split => session.warned module call script own split,
    fun last event member => level_of_mem_reportsOf member, ?_, ?_⟩
  · rintro args rfl outcome last
    refine ⟨rfl, log, ?_, ?_⟩
    · intro failed
      rw [session.probe_outcome module args script own]
      exact if_neg failed
    · rintro earlier handle rfl found
      rw [events_take_probe found]
      exact log
  · rintro role payload entry options data rfl prepared outcome size last
    have sizes := Payload.size_of_forRole (TestModule.prepare_eq_ok_iff.mp prepared).1
    have told : (payload.map Payload.size).getD 0 = size := congrArg (Option.getD · 0) sizes
    have log : outcome.2.2.rig.log = session.rig.log ++ reportsOf acts last := by
      simp only [outcome, session.hook_eq module role data options script prepared, last, ← told]
      exact log
    refine ⟨rfl, log, session.hook_of_code_ne_zero module role data options script prepared, ?_⟩
    rintro earlier handle given rfl found rfl
    rw [events_take_hook found]
    exact log

/-! ## A hook that fails -/

/-- Gives back a context of its own, keeps one that it asked for, makes a request and fails. -/
def Script.untidy : Script :=
  .call (.ownContext .empty) fun mine =>
    .call (.release (some mine)) fun _ =>
      .call (.allocate 5) fun ctx =>
        .call (.request ctx (some [1, 2]) 2 2 1) fun _ => .exit (-5)

/-- The outcome tells the code only, and the log tells the rest. -/
theorem Session.call_reported_untidy :
    let module := TestModule.uniform ⟨1⟩ .scripted
    let session := { Session.start Disk.empty [] fun _ => none with handles := [("m", module)] }
    let payload : Payload := ⟨Bytes.resize [1, 2, 3] 4096 0, 3⟩
    let call : Call := .hook .reportDescriptorFixup (some payload) .scripted {}
    let acts := session.callActs module call (some .untidy)
    (session.rig.armed = none ∧ (∀ act ∈ acts, act.IsServed) ∧
      session.callSteps module call (some Script.untidy.steps) = []) ∧
    (session.hook module .reportDescriptorFixup (some [1, 2, 3]) {} (some Script.untidy.run)).1 =
      .error (.returnCode "uniform" (.hook .reportDescriptorFixup) (-5)) ∧
    (session.take (.hook "m" .reportDescriptorFixup (some [1, 2, 3]) none)
        (some .untidy)).1.events =
      [.strayRelease, .contextsLeaked 1, .hooked "uniform" .reportDescriptorFixup (-5) 3 1] := by
  intro module session payload call acts
  have own : ∀ act ∈ acts, act.IsServed := by decide
  have alone : session.callSteps module call (some Script.untidy.steps) = [] := by rfl
  obtain ⟨-, -, -, hook⟩ := session.call_reported rfl module call (some .untidy) own alone
  obtain ⟨-, -, fails, reports⟩ :=
    hook .reportDescriptorFixup (some payload) .scripted {} (some [1, 2, 3]) rfl (by rfl)
  refine ⟨⟨rfl, own, alone⟩, fails (by decide), ?_⟩
  rw [reports session "m" none (by rfl) (by rfl) rfl]
  rfl

end HidRig
