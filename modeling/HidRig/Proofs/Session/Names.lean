import HidRig.Proofs.Rig.Names
import HidRig.Proofs.Tables.Elsewhere

/-! # The names in the answers of a session

The name of a module shows in faults and reports of its calls. A session goes on alike if a step works
on another module that does the same and waits for the same calls, but for these names.

* `Answer.anonymous`, `Note.anonymous`, `Outcome.anonymous`, `Session.StepReport.anonymous`: what a
  session tells, without the names.
* `Session.SameButNames`: sessions that differ in the names that were reported.
* `Session.Starts`: the sessions in which the scripts of a step start.
* `Session.WaitsAlike`: where the locks of two modules make no difference.
* `Session.SameButNames.perform_other`, `Session.SameButNames.perform_same`: a step on another module
  that does the same, and the same step.
-/

namespace HidRig

/-! ## Without names -/

def Answer.anonymous : Answer → Answer
  | probed outcome => .probed (anonymousOutcome outcome)
  | patched outcome => .patched (anonymousOutcome outcome)
  | hooked outcome => .hooked (anonymousOutcome outcome)
  | answer => answer

mutual

def Note.anonymous : Note → Note
  | .step answer => .step answer.anonymous
  | .scripted answer trace => .scripted answer.anonymous (Note.anonymousAll trace)
  | .thread trace => .thread (Note.anonymousAll trace)
  | note => note

def Note.anonymousAll : List Note → List Note
  | [] => []
  | note :: trace => note.anonymous :: Note.anonymousAll trace

end

def Outcome.anonymous (outcome : Outcome) : Outcome :=
  ⟨outcome.answer.anonymous, outcome.trace.map Note.anonymousAll⟩

def Session.StepReport.anonymous (report : StepReport) : StepReport :=
  ⟨report.outcome.anonymous, report.events.map Event.anonymous, report.output⟩

@[simp] theorem InvocationFault.inModule_inModule (fault : InvocationFault) (first second : String) :
    (fault.inModule first).inModule second = fault.inModule second := by
  cases fault <;> rfl

theorem anonymousOutcome_map {α β : Type} (f : α → β) (outcome : Except InvocationFault α) :
    anonymousOutcome (outcome.map f) = (anonymousOutcome outcome).map f := by
  cases outcome <;> rfl

/-- The lines that two outcomes leave in a trace differ in names if they do. -/
theorem Outcome.anonymous_note {first second : Outcome} (same : second.anonymous = first.anonymous) :
    second.note.anonymous = first.note.anonymous := by
  obtain ⟨answer, trace⟩ := first
  obtain ⟨answer', trace'⟩ := second
  obtain ⟨answers, traces⟩ := Outcome.mk.inj same
  cases trace with
  | none =>
    obtain rfl := Option.map_eq_none_iff.mp traces
    exact congrArg Note.step answers
  | some lines =>
    obtain ⟨lines', rfl, equal⟩ := Option.map_eq_some_iff.mp traces
    exact congrArg₂ Note.scripted answers equal

/-! ## Sessions -/

/-- Two sessions that differ at most in the names that were reported. -/
def Session.SameButNames (s t : Session) : Prop :=
  ∃ rig, s.rig.SameButNames rig ∧ t = { s with rig }

structure Finish.SameButNames (f g : Finish) : Prop where
  code : g.code = f.code
  trace : Note.anonymousAll g.trace = Note.anonymousAll f.trace
  frame : g.frame = f.frame
  session : f.session.SameButNames g.session

/-- Ends of calls that differ at most in names, but for the lock of the call. -/
structure Session.EntryFinish.SameButNames (f g : EntryFinish) : Prop where
  code : g.code = f.code
  trace : g.trace.map Note.anonymousAll = f.trace.map Note.anonymousAll
  frame : g.frame = f.frame
  session : f.session.leave.SameButNames g.session.leave

/-- Outcomes that differ at most in names, with sessions that do afterwards. -/
structure Session.AnswersSame (first second : Outcome × Session) : Prop where
  outcome : second.1.anonymous = first.1.anonymous
  after : first.2.SameButNames second.2

/-- Native code goes on alike. -/
theorem Rig.SameButNames.run {α : Type} : ∀ (body : Native α) {r s : Rig}, r.SameButNames s →
    ∀ frame : Frame, (body.run frame s).1 = (body.run frame r).1 ∧
      (body.run frame s).2.1 = (body.run frame r).2.1 ∧
      (body.run frame r).2.2.SameButNames (body.run frame s).2.2
  | .done _, _, _, h, _ => ⟨rfl, rfl, h⟩
  | .call service next, r, s, h, frame => by
    obtain ⟨reply, same, after⟩ := h.serve frame service
    unfold Native.run
    dsimp only
    rw [reply, same]
    exact run (next _) after _

namespace Session

/-- The frame and the session in which the script of a step starts. -/
inductive Starts (session : Session) : Step → Frame → Session → Prop
  | probe {handle : String} {args : ProbeArgs} {module : TestModule}
      (idle : session.idle? handle = some module) (scripted : module.probe = .scripted) :
      Starts session (.probe handle (some args)) ((Call.probe args).start module session.rig).1
        (session.begun module (.probe args))
  | hook {handle : String} {role : Role} {data : Option Bytes} {options : Option InvokeOptions}
      {module : TestModule} {payload : Option Payload}
      (idle : session.idle? handle = some module)
      (prepared : module.prepare role data = .ok (payload, .scripted)) :
      Starts session (.hook handle role data options)
        ((Call.hook role payload .scripted (options.getD {})).start module session.rig).1
        (session.begun module (.hook role payload .scripted (options.getD {})))
  | direct {handle : String} {module : TestModule}
      (found : session.module? handle = some module) :
      Starts session (.direct handle) ⟨module.file, none, none⟩ session

theorem Starts.module? {session s : Session} {step : Step} {frame : Frame}
    (starts : session.Starts step frame s) (handle : String) :
    s.module? handle = session.module? handle := by
  cases starts <;> rfl

end Session

/-- Two ways to run a script that go on alike where a step starts them. -/
def Runner.SameButNames (starts : Frame → Session → Prop) (run run' : Runner) : Prop :=
  ∀ frame s, starts frame s → ∀ t, s.SameButNames t → (run frame s).SameButNames (run' frame t)

namespace Session.SameButNames
variable {s t : Session} (h : s.SameButNames t)

theorem refl (s : Session) : s.SameButNames s :=
  ⟨s.rig, .refl s.rig, rfl⟩

include h

theorem rig : s.rig.SameButNames t.rig := by
  obtain ⟨_, same, rfl⟩ := h
  exact same

theorem handles : t.handles = s.handles := by
  obtain ⟨_, _, rfl⟩ := h
  rfl

theorem withRig {r r' : Rig} (same : r.SameButNames r') :
    SameButNames { s with rig := r } { t with rig := r' } := by
  obtain ⟨_, _, rfl⟩ := h
  exact ⟨r', same, rfl⟩

theorem quiet : s.quiet.SameButNames t.quiet :=
  h.withRig { h.rig with output := rfl, log := rfl }

theorem leave : s.leave.SameButNames t.leave := by
  obtain ⟨rig, same, rfl⟩ := h
  exact ⟨rig, same, rfl⟩

theorem onThread : s.onThread.SameButNames t.onThread :=
  h.withRig (h.rig.setArmed none)

theorem backFrom {s' t' : Session} (after : s'.SameButNames t') :
    (s.backFrom s').SameButNames (t.backFrom t') := by
  unfold Session.backFrom
  rw [h.rig.armed]
  exact after.withRig (after.rig.setArmed _)

theorem lookUp (given : ContextRef) (name : ContextName) :
    (t.lookUp given name).1 = (s.lookUp given name).1 ∧
      (s.lookUp given name).2.SameButNames (t.lookUp given name).2 := by
  obtain ⟨rig, same, rfl⟩ := h
  cases name with
  | self | null | named => exact ⟨rfl, rig, same, rfl⟩
  | foreign =>
    obtain ⟨id, made⟩ := same.newContext (.forIndex foreignIndex)
    unfold Session.lookUp
    dsimp only
    rw [id]
    exact ⟨rfl, _, made, rfl⟩

theorem module? (handle : String) : t.module? handle = s.module? handle := by
  unfold Session.module?
  rw [h.handles]

end Session.SameButNames

/-! ## Calls -/

namespace Session.EntryFinish.SameButNames
variable {f g : EntryFinish} {m n : TestModule}

theorem probe (h : f.SameButNames g) (alike : m.Alike n) :
    let first := ProbeCall.finish m f.code f.frame f.session.rig
    let second := ProbeCall.finish n g.code g.frame g.session.rig
    anonymousOutcome second.1 = anonymousOutcome first.1 ∧
      Session.SameButNames { f.session.leave with rig := first.2 }
        { g.session.leave with rig := second.2 } := by
  obtain ⟨outcome, ended⟩ := h.session.rig.finishProbe alike f.code f.frame
  rw [h.code, h.frame]
  exact ⟨outcome, h.session.withRig ended⟩

theorem hook (h : f.SameButNames g) (alike : m.Alike n) {call other : HookCall}
    (equal : other = call) :
    let first := HookCall.finish m call f.code f.session.rig
    let second := HookCall.finish n other g.code g.session.rig
    anonymousOutcome second.1 = anonymousOutcome first.1 ∧
      Session.SameButNames { f.session.leave with rig := first.2 }
        { g.session.leave with rig := second.2 } := by
  obtain ⟨outcome, ended⟩ := h.session.rig.finishHook alike call f.code
  rw [h.code, equal]
  exact ⟨outcome, h.session.withRig ended⟩

end Session.EntryFinish.SameButNames

namespace Session.SameButNames
variable {s t : Session} (h : s.SameButNames t) {script script' : Option Runner}
  {m n : TestModule}
include h

/-- Calls of modules that do the same begin alike, but for their locks. -/
theorem begun (alike : m.Alike n) (call : Call) :
    (call.start n t.rig).1 = (call.start m s.rig).1 ∧
      (s.begun m call).leave.SameButNames (t.begun n call).leave ∧
      (m.lock = n.lock → (s.begun m call).SameButNames (t.begun n call)) := by
  obtain ⟨rig, same, rfl⟩ := h
  obtain ⟨frame, started⟩ := same.start alike call
  refine ⟨frame, ⟨_, started, rfl⟩, fun lock => ⟨_, started, ?_⟩⟩
  unfold Session.begun enter
  rw [lock]

/-- The code of such calls ends alike, if the locks are the same where scripts start, and these go
on alike. -/
theorem ended (alike : m.Alike n) (call : Call) {starts : Frame → Session → Prop}
    (here : call.entry m = .scripted → starts (call.start m s.rig).1 (s.begun m call))
    (lock : script.isSome = true → ∀ frame u, starts frame u → m.lock = n.lock)
    (runs : Option.Rel (Runner.SameButNames starts) script script') :
    ((s.begun m call).runEntry (call.entry m) script (call.start m s.rig).1).SameButNames
      ((t.begun n call).runEntry (call.entry n) script' (call.start n t.rig).1) := by
  obtain ⟨frame, left, begun⟩ := h.begun alike call
  have entry : call.entry n = call.entry m := by
    cases call with
    | probe args => exact alike.probe.symm
    | hook => rfl
  rw [entry, frame]
  -- only a script sees the lock of the call that it runs in
  cases code : call.entry m with
  | helper => cases runs <;> exact ⟨rfl, rfl, rfl, left⟩
  | code body =>
    obtain ⟨code, same, after⟩ := left.rig.run body (call.start m s.rig).1
    exact ⟨code, rfl, same, left.withRig after⟩
  | scripted =>
    cases runs with
    | none => exact ⟨rfl, rfl, rfl, left⟩
    | some same =>
      have starts := here code
      have ended := same _ _ starts _ (begun (lock rfl _ _ starts))
      exact ⟨ended.code, congrArg some ended.trace, ended.frame, ended.session.leave⟩

theorem probe (alike : m.Alike n) (args : ProbeArgs) {starts : Frame → Session → Prop}
    (here : m.probe = .scripted →
      starts ((Call.probe args).start m s.rig).1 (s.begun m (.probe args)))
    (lock : script.isSome = true → ∀ frame u, starts frame u → m.lock = n.lock)
    (runs : Option.Rel (Runner.SameButNames starts) script script') :
    let first := s.probe m args script
    let second := t.probe n args script'
    anonymousOutcome second.1 = anonymousOutcome first.1 ∧
      second.2.1.map Note.anonymousAll = first.2.1.map Note.anonymousAll ∧
      first.2.2.SameButNames second.2.2 := by
  intro first second
  have ended := h.ended alike (.probe args) here lock runs
  obtain ⟨outcome, after⟩ := ended.probe alike
  exact ⟨outcome, ended.trace, after⟩

theorem hook (alike : m.Alike n) (role : Role) (data : Option Bytes) (options : InvokeOptions)
    {starts : Frame → Session → Prop}
    (here : ∀ payload, m.prepare role data = .ok (payload, .scripted) →
      starts ((Call.hook role payload .scripted options).start m s.rig).1
        (s.begun m (.hook role payload .scripted options)))
    (lock : script.isSome = true → ∀ frame u, starts frame u → m.lock = n.lock)
    (runs : Option.Rel (Runner.SameButNames starts) script script') :
    let first := s.hook m role data options script
    let second := t.hook n role data options script'
    anonymousOutcome second.1 = anonymousOutcome first.1 ∧
      second.2.1.map Note.anonymousAll = first.2.1.map Note.anonymousAll ∧
      first.2.2.SameButNames second.2.2 := by
  intro first second
  have prepares := TestModule.prepare_inModule alike.hooks role data
  cases prepared : m.prepare role data with
  | error fault =>
    rw [prepared] at prepares
    simp only [first, second, Session.hook, prepared, prepares, Except.mapError]
    exact ⟨congrArg Except.error (fault.inModule_inModule n.name ""), trivial, h⟩
  | ok started =>
    obtain ⟨payload, entry⟩ := started
    rw [prepared] at prepares
    have starting : entry = .scripted → starts
        ((Call.hook role payload entry options).start m s.rig).1
        (s.begun m (.hook role payload entry options)) := by
      rintro rfl
      exact here payload prepared
    have ended := h.ended alike (.hook role payload entry options) starting lock runs
    have call := h.rig.startHook m n role payload options
    obtain ⟨outcome, after⟩ := ended.hook alike call
    simp only [first, second, Session.hook, prepared, prepares, Except.mapError]
    exact ⟨outcome, ended.trace, after⟩

theorem install (alike : m.Alike n) (data : Option Bytes) :
    (t.install n data).1 = (s.install m data).1 ∧
      (s.install m data).2.SameButNames (t.install n data).2 := by
  obtain ⟨rig, same, rfl⟩ := h
  obtain ⟨table, made⟩ := same.bareTable data
  unfold Session.install
  dsimp only
  rw [alike.file, table]
  exact ⟨rfl, _, made.setTable _ _, rfl⟩

end Session.SameButNames

/-! ## Steps -/

/-- The step with another module to work on. -/
def Step.withHandle (handle : String) : Step → Step
  | .probe _ args => .probe handle args
  | .hook _ role data options => .hook handle role data options
  | .install _ data => .install handle data
  | .direct _ => .direct handle
  | step => step

/-- A step that waits until no call of its module is running. -/
def Step.waits : Step → Bool
  | .direct _ => false
  | _ => true

/-- A step on either of two modules waits for the same calls. Scripts take steps in their turn while
the call is running, so that the modules need to have one lock if a script starts. -/
structure Session.WaitsAlike (session : Session) (step : Step) (brings : Bool) (m n : TestModule) :
    Prop where
  busy : step.waits = true → session.isRunning m = session.isRunning n
  lock : step.waits = true → brings = true → ∀ frame s, session.Starts step frame s →
    m.lock = n.lock

theorem Session.WaitsAlike.of_lock {m n : TestModule} (lock : m.lock = n.lock) (session : Session)
    (step : Step) (brings : Bool) : session.WaitsAlike step brings m n where
  busy _ := by rw [isRunning, isRunning, lock]
  lock _ _ _ _ _ := lock

/-- Where no call is running, a step without a script does not wait. -/
theorem Session.WaitsAlike.of_idle {session : Session} (idle : session.running = []) (step : Step)
    (m n : TestModule) : session.WaitsAlike step false m n where
  busy _ := by rw [isRunning, isRunning, idle]; rfl
  lock _ := nofun

theorem Session.WaitsAlike.of_direct (session : Session) (handle : String) (brings : Bool)
    (m n : TestModule) : session.WaitsAlike (.direct handle) brings m n where
  busy := nofun
  lock := nofun

theorem Step.locks_withHandle (step : Step) (handle : String) {m n : TestModule} (alike : m.Alike n) :
    (step.withHandle handle).locks n = step.locks m := by
  cases step with
  | hook _ role data options =>
    simp only [withHandle, locks, TestModule.prepare_inModule alike.hooks role data]
    cases m.prepare role data <;> rfl
  | _ => rfl

theorem Step.withHandle_self {step : Step} {handle : String} (uses : step.handle? = some handle) :
    step.withHandle handle = step := by
  cases step <;> cases uses <;> rfl

namespace Session.AnswersSame
variable {s t : Session} (h : s.SameButNames t)
include h

theorem reply (answer : Answer) : AnswersSame (s.reply answer) (t.reply answer) :=
  ⟨rfl, h⟩

variable {handle other : String} {m n : TestModule} {go go' : TestModule → Outcome × Session}
  (here : s.module? handle = some m) (there : s.module? other = some n)
include here there

theorem withModule (goes : AnswersSame (go m) (go' n)) :
    AnswersSame (s.withModule handle go) (t.withModule other go') := by
  have found : t.module? other = some n := (h.module? other).trans there
  unfold Session.withModule
  rw [here, found]
  exact goes

theorem withIdle {locks locks' : TestModule → Bool} (lock : locks' n = locks m)
    (busy : s.isRunning m = s.isRunning n)
    (goes : (locks m = true → s.idle? handle = some m) → AnswersSame (go m) (go' n)) :
    AnswersSame (s.withIdle handle locks go) (t.withIdle other locks' go') := by
  refine withModule h here there ?_
  have running : t.isRunning n = s.isRunning m := by
    obtain ⟨rig, -, rfl⟩ := h
    exact busy.symm
  rw [running, lock]
  split
  · exact reply h _
  · rename_i quiet
    refine goes fun locked => ?_
    have free : s.isRunning m = false := by simpa [locked] using quiet
    simp [idle?, here, Option.filter, free]

end Session.AnswersSame

theorem Session.SameButNames.withCache {s t : Session} (h : s.SameButNames t) (ref : CacheRef)
    {go go' : ModuleCache → Outcome × Session} (goes : ∀ cache, AnswersSame (go cache) (go' cache)) :
    AnswersSame (s.withCache ref go) (t.withCache ref go') := by
  have caches : t.caches ref = s.caches ref := by
    obtain ⟨rig, -, rfl⟩ := h
    rfl
  unfold Session.withCache
  rw [caches]
  split
  · exact .reply h _
  · exact goes _

/-- Modules are loaded alike. -/
theorem Session.SameButNames.thenLoad {s t : Session} (h : s.SameButNames t) (ref : CacheRef)
    (cache : ModuleCache) (name handle : String)
    {loaded : TestModule → Session → Outcome × Session}
    {failed : LoadFault → Session → Outcome × Session}
    (goes : ∀ module s t, SameButNames s t → AnswersSame (loaded module s) (loaded module t))
    (fails : ∀ fault s t, SameButNames s t → AnswersSame (failed fault s) (failed fault t)) :
    AnswersSame
      (match s.load ref cache name handle with
        | (.ok module, session) => loaded module session
        | (.error fault, session) => failed fault session)
      (match t.load ref cache name handle with
        | (.ok module, session) => loaded module session
        | (.error fault, session) => failed fault session) := by
  obtain ⟨rig, same, rfl⟩ := h
  unfold Session.load
  dsimp only
  cases (cache.load s.disk s.loader name).1 with
  | ok module => exact goes module _ _ ⟨_, same.reportAll _, rfl⟩
  | error fault => exact fails fault _ _ ⟨_, same.reportAll _, rfl⟩

namespace Session.SameButNames
variable {s t : Session} (h : s.SameButNames t) {script script' : Option Runner} {step : Step}
  (runs : Option.Rel (Runner.SameButNames (s.Starts step)) script script')
include h runs

/-- A step goes on alike on another module that does the same, if they wait for the same calls. -/
theorem perform_other {handle other : String} {m n : TestModule} (uses : step.handle? = some handle)
    (here : s.module? handle = some m) (there : s.module? other = some n) (alike : m.Alike n)
    (waits : s.WaitsAlike step script.isSome m n) :
    AnswersSame (s.perform step script) (t.perform (step.withHandle other) script') := by
  cases step with
  | load | require | inspect | describe | make | remove => cases uses
  | probe handle args =>
    cases uses
    refine AnswersSame.withIdle h here there (Step.locks_withHandle _ other alike)
      (waits.busy rfl) fun idle => ?_
    cases args with
    | none => exact .reply h _
    | some args =>
      obtain ⟨outcome, trace, after⟩ :=
        h.probe alike args (.probe (idle rfl)) (waits.lock rfl) runs
      exact ⟨congrArg₂ Outcome.mk (congrArg Answer.probed outcome) trace, after⟩
  | hook handle role data options =>
    cases uses
    refine AnswersSame.withIdle h here there (Step.locks_withHandle _ other alike)
      (waits.busy rfl) fun idle => ?_
    have starts (payload : Option Payload)
        (prepared : m.prepare role data = .ok (payload, .scripted)) :
        s.Starts (.hook handle role data options)
          ((Call.hook role payload .scripted (options.getD {})).start m s.rig).1
          (s.begun m (.hook role payload .scripted (options.getD {}))) :=
      .hook (idle (by rw [Step.locks, prepared]; rfl)) prepared
    obtain ⟨outcome, trace, after⟩ :=
      h.hook alike role data (options.getD {}) starts (waits.lock rfl) runs
    refine ⟨congrArg₂ Outcome.mk ?_ trace, after⟩
    cases options with
    | some options => exact congrArg Answer.hooked outcome
    | none =>
      refine congrArg Answer.patched ?_
      rw [anonymousOutcome_map, anonymousOutcome_map]
      exact congrArg (Except.map Invocation.data) outcome
  | install handle data =>
    cases uses
    refine AnswersSame.withIdle h here there rfl (waits.busy rfl) fun _ => ?_
    obtain ⟨hasData, after⟩ := h.install alike data
    exact ⟨congrArg (fun has => Outcome.mk (.installed has) none) hasData, after⟩
  | direct handle =>
    cases uses
    refine AnswersSame.withModule h here there ?_
    unfold Session.direct
    dsimp only
    cases runs with
    | none => exact ⟨rfl, h⟩
    | some same =>
      rw [← alike.file]
      have ended := same _ _ (.direct here) _ h
      exact ⟨congrArg (fun trace => Outcome.mk .ran (some trace)) ended.trace, ended.session⟩

/-- A step goes on alike. -/
theorem perform_same : AnswersSame (s.perform step script) (t.perform step script') := by
  cases uses : step.handle? with
  | some handle =>
    cases here : s.module? handle with
    | some m =>
      have goes := h.perform_other runs uses here here (.refl m) (.of_lock rfl s step _)
      rwa [step.withHandle_self uses] at goes
    | none =>
      have there : t.module? handle = none := (h.module? handle).trans here
      cases step <;> cases uses <;>
        simp only [perform, withIdle, withModule, here, there] <;> exact .reply h _
  | none =>
    cases step with
    | probe | hook | install | direct => cases uses
    | make items | remove path =>
      obtain ⟨rig, same, rfl⟩ := h
      exact ⟨rfl, rig, same, rfl⟩
    | inspect ref names => exact h.withCache ref fun cache => .reply h _
    | describe handle =>
      cases here : s.module? handle with
      | some m => exact AnswersSame.withModule h here here (.reply h _)
      | none =>
        have there : t.module? handle = none := (h.module? handle).trans here
        simp only [perform, withModule, here, there]
        exact .reply h _
    | load ref name handle =>
      refine h.withCache ref fun cache => h.thenLoad ref cache name handle ?_ ?_
      · exact fun _ _ _ after => .reply after _
      · exact fun _ _ _ after => .reply after _
    | require ref name handle =>
      refine h.withCache ref fun cache => h.thenLoad ref cache name handle ?_ ?_
      · exact fun _ _ _ after => .reply after _
      · exact fun _ _ _ after => .reply (after.withRig (after.rig.report rfl)) _

end Session.SameButNames

end HidRig
