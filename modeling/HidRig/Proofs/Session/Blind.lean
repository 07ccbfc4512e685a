import HidRig.Session.Run

/-! # Steps that do not look at the hooks of a module

The files and the documents of a module decide which hooks it has. Steps that load no module and
look neither at this module nor at its cache go on alike whatever its hooks are, and so do scripts
that take only such steps.

* `TestModule.withoutHooks`: what a module is but for its hooks.
* `Session.Like`, `Session.AnswersAlike`: sessions that differ at most in files, open objects, one
  cache and the hooks of the module with one handle, and answers after which they are so.
* `Step.isBlind`, `Script.Blind`: the steps that do not look, and the scripts that take no other.
* `Session.perform_like`, `Script.Blind.run_like`: what a step and a script keep.
* `Session.takeAll_like`: the steps of such sessions have the same reports.
-/

namespace HidRig

def TestModule.withoutHooks (module : TestModule) : TestModule :=
  { module with slots := [] }

/-- A probe does not look at the hooks of its module. -/
theorem Session.probe_withoutHooks (session : Session) (module : TestModule) (args : ProbeArgs)
    (script : Option Runner) :
    session.probe module.withoutHooks args script = session.probe module args script :=
  rfl

/-- The step loads no module, and looks neither into a cache nor at the hooks of the module with a
handle. -/
def Step.isBlind (ref : CacheRef) (handle : String) : Step → Bool
  | .load .. | .require .. => false
  | .inspect other _ => other ≠ ref
  | .describe other | .hook other .. => other ≠ handle
  | _ => true

/-- All steps that the script takes are blind. -/
inductive Script.Blind (ref : CacheRef) (handle : String) : Script → Prop
  | exit (code : Int32) : Blind ref handle (.exit code)
  | call (service : Service) {next : service.Reply → Script}
      (rest : ∀ reply, Blind ref handle (next reply)) : Blind ref handle (.call service next)
  | note (line : Note) {next : Script} (rest : Blind ref handle next) :
      Blind ref handle (.note line next)
  | step {taken : Step} (blind : taken.isBlind ref handle = true) {next : Outcome → Script}
      (rest : ∀ outcome, Blind ref handle (next outcome)) : Blind ref handle (.step taken next)
  | stepWith {taken : Step} (blind : taken.isBlind ref handle = true) {body : Script}
      {next : Outcome → Script} (inner : Blind ref handle body)
      (rest : ∀ outcome, Blind ref handle (next outcome)) :
      Blind ref handle (.stepWith taken body next)
  | thread {body : Script} {next : List Note → Script} (inner : Blind ref handle body)
      (rest : ∀ trace, Blind ref handle (next trace)) : Blind ref handle (.thread body next)
  | lookUp (name : ContextName) {next : Option FoundContext → Script}
      (rest : ∀ found, Blind ref handle (next found)) : Blind ref handle (.lookUp name next)
  | bindName (name : String) (id : ContextId) {next : Script} (rest : Blind ref handle next) :
      Blind ref handle (.bindName name id next)
  | markReleased (id : ContextId) {next : Script} (rest : Blind ref handle next) :
      Blind ref handle (.markReleased id next)

namespace Session

/-- Two sessions that differ at most in files, open objects, one cache, and the hooks of the module
with one handle. -/
structure Like (ref : CacheRef) (handle : String) (s t : Session) : Prop where
  rig : s.rig = t.rig
  caches : ∀ other, other ≠ ref → s.caches other = t.caches other
  others : ∀ other, other ≠ handle → s.module? other = t.module? other
  module : (s.module? handle).map TestModule.withoutHooks =
    (t.module? handle).map TestModule.withoutHooks
  names : s.names = t.names
  running : s.running = t.running
  callCount : s.callCount = t.callCount

/-- Answers that are the same, with sessions that are alike afterwards. -/
structure AnswersAlike {α : Type} (ref : CacheRef) (handle : String) (first second : α × Session) :
    Prop where
  answer : first.1 = second.1
  after : first.2.Like ref handle second.2

end Session

structure Finish.Like (ref : CacheRef) (handle : String) (f g : Finish) : Prop where
  code : f.code = g.code
  trace : f.trace = g.trace
  frame : f.frame = g.frame
  session : f.session.Like ref handle g.session

/-- A way to run a script that goes on alike in sessions alike. -/
def Runner.Blind (ref : CacheRef) (handle : String) (run : Runner) : Prop :=
  ∀ frame s t, Session.Like ref handle s t → (run frame s).Like ref handle (run frame t)

section Alike
variable {ref : CacheRef} {watched : String}

namespace Session
variable {s t : Session} (like : s.Like ref watched t) {script : Option Runner}
  (runs : ∀ run, script = some run → Runner.Blind ref watched run)

/-! ## Steps -/

include like

theorem Like.withRig (rig : Rig) : Like ref watched { s with rig } { t with rig } :=
  { like with rig := rfl }

theorem Like.quiet : s.quiet.Like ref watched t.quiet := by
  unfold Session.quiet
  rw [like.rig]
  exact like.withRig _

theorem Like.enter (module : TestModule) : (s.enter module).Like ref watched (t.enter module) := by
  unfold Session.enter
  rw [like.running, like.callCount]
  exact { like with running := rfl, callCount := rfl }

/-- The call that is left is the last that was entered. -/
theorem Like.leave : s.leave.Like ref watched t.leave :=
  { like with running := congrArg List.tail like.running }

theorem module?_like (handle : String) :
    (s.module? handle).map TestModule.withoutHooks =
      (t.module? handle).map TestModule.withoutHooks := by
  by_cases same : handle = watched
  · subst same
    exact like.module
  · rw [like.others handle same]

theorem withModule_like {handle : String} {go go' : TestModule → Outcome × Session}
    (alike : ∀ m n, (handle ≠ watched → m = n) → m.withoutHooks = n.withoutHooks →
      AnswersAlike ref watched (go m) (go' n)) :
    AnswersAlike ref watched (s.withModule handle go) (t.withModule handle go') := by
  have same := module?_like like handle
  unfold withModule
  cases found : s.module? handle with
  | none =>
    rw [found] at same
    rw [Option.map_eq_none_iff.mp same.symm]
    exact ⟨rfl, like⟩
  | some m =>
    rw [found] at same
    obtain ⟨n, found', equal⟩ := Option.map_eq_some_iff.mp same.symm
    rw [found']
    refine alike m n (fun other => ?_) equal.symm
    exact Option.some.inj (found.symm.trans ((like.others handle other).trans found'))

theorem withIdle_like {handle : String} {locks : TestModule → Bool}
    {go go' : TestModule → Outcome × Session}
    (lock : handle ≠ watched ∨ ∀ m n, locks m = locks n)
    (alike : ∀ m n, (handle ≠ watched → m = n) → m.withoutHooks = n.withoutHooks →
      AnswersAlike ref watched (go m) (go' n)) :
    AnswersAlike ref watched (s.withIdle handle locks go) (t.withIdle handle locks go') := by
  unfold withIdle
  apply withModule_like like
  intro m n same but
  have running : s.isRunning m = t.isRunning n := by
    have lock : m.lock = n.lock := show m.withoutHooks.lock = n.withoutHooks.lock by rw [but]
    unfold isRunning
    rw [like.running, lock]
  have locked : locks m = locks n := lock.elim (fun other => by rw [same other]) fun all => all m n
  rw [running, locked]
  split
  · exact ⟨rfl, like⟩
  · exact alike m n same but

include runs

theorem runEntry_like (entry : EntryPoint) (frame : Frame) :
    let first := s.runEntry entry script frame
    let second := t.runEntry entry script frame
    first.code = second.code ∧ first.trace = second.trace ∧ first.frame = second.frame ∧
      first.session.Like ref watched second.session := by
  cases entry with
  | helper => cases script <;> exact ⟨rfl, rfl, rfl, like⟩
  | code body =>
    unfold runEntry
    dsimp only
    rw [like.rig]
    exact ⟨rfl, rfl, rfl, like.withRig _⟩
  | scripted =>
    cases script with
    | none => exact ⟨rfl, rfl, rfl, like⟩
    | some run =>
      have ended := runs run rfl frame s t like
      exact ⟨ended.code, congrArg some ended.trace, ended.frame, ended.session⟩

theorem probe_like {m n : TestModule} (same : m.withoutHooks = n.withoutHooks) (args : ProbeArgs) :
    (s.probe m args script).1 = (t.probe n args script).1 ∧
      AnswersAlike ref watched (s.probe m args script).2 (t.probe n args script).2 := by
  rw [← s.probe_withoutHooks m, ← t.probe_withoutHooks n, same]
  generalize n.withoutHooks = module
  have begun := (like.withRig (ProbeCall.start module args s.rig).2).enter module
  obtain ⟨code, trace, frame, ended⟩ :=
    runEntry_like begun runs module.probe (ProbeCall.start module args s.rig).1
  unfold probe
  dsimp only
  rw [← like.rig, code, frame, ended.rig]
  exact ⟨rfl, trace, ended.leave.withRig _⟩

theorem hook_like (module : TestModule) (role : Role) (data : Option Bytes)
    (options : InvokeOptions) :
    (s.hook module role data options script).1 = (t.hook module role data options script).1 ∧
      AnswersAlike ref watched (s.hook module role data options script).2
        (t.hook module role data options script).2 := by
  unfold hook
  cases module.prepare role data with
  | error fault => exact ⟨rfl, rfl, like⟩
  | ok prepared =>
    obtain ⟨payload, entry⟩ := prepared
    let start := HookCall.start module role payload options s.rig
    have begun := (like.withRig start.2.2).enter module
    obtain ⟨code, trace, -, ended⟩ := runEntry_like begun runs entry start.2.1
    dsimp only
    rw [← like.rig, code, ended.rig]
    exact ⟨rfl, trace, ended.leave.withRig _⟩

/-- A blind step is answered alike, and goes on alike. -/
theorem perform_like {step : Step} (blind : step.isBlind ref watched = true) :
    AnswersAlike ref watched (s.perform step script) (t.perform step script) := by
  cases step with
  | load ref name handle | require ref name handle => cases blind
  | make items | remove path => exact ⟨rfl, { like with }⟩
  | inspect other names =>
    have caches := like.caches other (of_decide_eq_true blind)
    unfold perform withCache
    dsimp only
    rw [caches]
    split <;> exact ⟨rfl, like⟩
  | describe handle =>
    apply withModule_like like
    intro m n same but
    rw [same (of_decide_eq_true blind)]
    exact ⟨rfl, like⟩
  | probe handle args =>
    apply withIdle_like like (.inr fun _ _ => rfl)
    intro m n _ but
    cases args with
    | none => exact ⟨rfl, like⟩
    | some args =>
      obtain ⟨outcome, trace, after⟩ := probe_like like runs but args
      refine ⟨?_, after⟩
      dsimp only
      rw [outcome, trace]
  | hook handle role data options =>
    have other : handle ≠ watched := of_decide_eq_true blind
    apply withIdle_like like (.inl other)
    intro m n same _
    obtain rfl := same other
    obtain ⟨outcome, trace, after⟩ := hook_like like runs m role data (options.getD {})
    refine ⟨?_, after⟩
    dsimp only
    rw [outcome, trace]
  | install handle data =>
    apply withIdle_like like (.inr fun _ _ => rfl)
    intro m n _ but
    have file : m.file = n.file := show m.withoutHooks.file = n.withoutHooks.file by rw [but]
    unfold install
    rw [like.rig, file]
    exact ⟨rfl, like.withRig _⟩
  | direct handle =>
    apply withModule_like like
    intro m n _ but
    have file : m.file = n.file := show m.withoutHooks.file = n.withoutHooks.file by rw [but]
    unfold direct
    rw [file]
    cases script with
    | none => exact ⟨rfl, like⟩
    | some run =>
      have ended := runs run rfl ⟨n.file, none, none⟩ s t like
      exact ⟨congrArg (fun trace => Outcome.mk .ran (some trace)) ended.trace, ended.session⟩

end Session

/-! ## Scripts -/

theorem Session.lookUp_like {s t : Session} (like : s.Like ref watched t) (given : ContextRef)
    (name : ContextName) :
    AnswersAlike ref watched (s.lookUp given name) (t.lookUp given name) := by
  cases name with
  | self => exact ⟨rfl, like⟩
  | null => exact ⟨rfl, like⟩
  | foreign =>
    unfold Session.lookUp
    rw [like.rig]
    exact ⟨rfl, like.withRig _⟩
  | named name =>
    refine ⟨?_, like⟩
    simp only [Session.lookUp, Session.isLive, like.names, like.running]

/-- A script that takes only blind steps runs alike in sessions alike. -/
theorem Script.Blind.run_like {script : Script} (blind : script.Blind ref watched) :
    Runner.Blind ref watched script.run := by
  induction blind with
  | exit code => exact fun frame s t like => ⟨rfl, rfl, rfl, like⟩
  | call service rest ih =>
    intro frame s t like
    unfold Script.run
    rw [like.rig]
    exact ih _ _ _ _ (like.withRig _)
  | note line rest ih =>
    intro frame s t like
    have ended := ih frame s t like
    exact { ended with trace := congrArg (line :: ·) ended.trace }
  | step blind rest ih =>
    intro frame s t like
    have runs : ∀ run, (none : Option Runner) = some run → Runner.Blind ref watched run := nofun
    obtain ⟨outcome, after⟩ := Session.perform_like like runs blind
    unfold Script.run
    dsimp only
    rw [outcome]
    exact ih _ _ _ _ after
  | @stepWith _ blind body _ inner rest ihBody ih =>
    intro frame s t like
    have runs : ∀ run, some body.run = some run → Runner.Blind ref watched run := by
      intro run brought
      cases brought
      exact ihBody
    obtain ⟨outcome, after⟩ := Session.perform_like like runs blind
    unfold Script.run
    dsimp only
    rw [outcome]
    exact ih _ _ _ _ after
  | thread inner rest ihBody ih =>
    intro frame s t like
    have started : s.onThread.Like ref watched t.onThread := by
      unfold Session.onThread
      rw [like.rig]
      exact like.withRig _
    have ended := ihBody frame _ _ started
    unfold Script.run
    dsimp only
    rw [ended.trace, ended.frame]
    apply ih
    unfold Session.backFrom
    rw [ended.session.rig, like.rig]
    exact ended.session.withRig _
  | lookUp name rest ih =>
    intro frame s t like
    obtain ⟨found, after⟩ := Session.lookUp_like like frame.given name
    unfold Script.run
    dsimp only
    rw [found]
    exact ih _ _ _ _ after
  | bindName name id rest ih =>
    intro frame s t like
    apply ih
    unfold Session.bindName
    rw [like.names, like.running]
    exact { like with names := rfl, running := rfl }
  | markReleased id rest ih =>
    intro frame s t like
    apply ih
    unfold Session.markReleased
    rw [like.names]
    exact { like with names := rfl }

/-! ## Runs -/

/-- A step and its script are blind. -/
def Session.BlindStep (ref : CacheRef) (handle : String) (taken : Step × Option Script) : Prop :=
  taken.1.isBlind ref handle = true ∧
    ∀ script, taken.2 = some script → script.Blind ref handle

theorem Session.take_like {s t : Session} (like : s.quiet.Like ref watched t.quiet) {step : Step}
    {script : Option Script} (blind : BlindStep ref watched (step, script)) :
    AnswersAlike ref watched (s.take step script) (t.take step script) := by
  have runs : ∀ run, script.map Script.run = some run → Runner.Blind ref watched run := by
    intro run brought
    obtain ⟨body, given, rfl⟩ := Option.map_eq_some_iff.mp brought
    exact (blind.2 body given).run_like
  obtain ⟨outcome, after⟩ := perform_like like runs blind.1
  refine ⟨?_, after⟩
  unfold Session.take
  dsimp only
  rw [outcome, after.rig]

/-- Blind steps have the same reports in sessions that differ at most in files, open objects, the
cache and the hooks that they do not look at, and in what was reported before. -/
theorem Session.takeAll_like {s t : Session} (like : s.quiet.Like ref watched t.quiet)
    (steps : List (Step × Option Script)) (blind : ∀ taken ∈ steps, BlindStep ref watched taken) :
    s.takeAll steps = t.takeAll steps := by
  induction steps generalizing s t with
  | nil => rfl
  | cons taken rest ih =>
    obtain ⟨step, script⟩ := taken
    obtain ⟨report, after⟩ := take_like like (blind (step, script) List.mem_cons_self)
    have later := ih after.quiet fun taken member => blind taken (List.mem_cons_of_mem _ member)
    unfold Session.takeAll
    dsimp only
    rw [report, later]

end Alike

end HidRig
