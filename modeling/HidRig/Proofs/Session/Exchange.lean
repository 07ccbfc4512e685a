import HidRig.Proofs.Opening.Backing
import HidRig.Proofs.Session.Names

/-! # Exchanged modules

Modules of one file with the same symbols for their roles are one module under several handles, as
far as calls go: all that a call needs is kept by the file.

* `TestModule.Twins`, `Loader.Backs.alike`: such modules, which do the same.
* `Session.Exchanges`, `Script.Exchanged`, `Session.Exchanged`: steps, scripts and sessions that put
  twins in the place of each other.
* `Script.Exchanged.run`, `Session.Exchanged.takeAll`: they differ in the names that are told.
-/

namespace HidRig

/-- What a role is bound to, or why it is not. -/
def Hook.shown : Hook → Except String String
  | resolved symbol _ => .ok symbol
  | unresolved reason => .error reason

/-- Modules of one file whose roles are bound alike. -/
structure TestModule.Twins (m n : TestModule) : Prop where
  file : m.file = n.file
  roles : ∀ role, (m.hooks role).shown = (n.hooks role).shown

instance (m n : TestModule) : Decidable (m.Twins n) :=
  decidable_of_iff (m.file = n.file ∧ ∀ role ∈ Role.all, (m.hooks role).shown = (n.hooks role).shown)
    ⟨fun h => ⟨h.1, fun role => h.2 role role.mem_all⟩, fun h => ⟨h.file, fun role _ => h.roles role⟩⟩

/-- A symbol stands for one entry point of an image. -/
theorem Hook.eq_of_shown {image : Image} {g h : Hook} (shown : g.shown = h.shown)
    (hg : ∀ symbol entry, g = .resolved symbol entry → image.symbol symbol = .ok entry)
    (hh : ∀ symbol entry, h = .resolved symbol entry → image.symbol symbol = .ok entry) : g = h := by
  cases g with
  | resolved symbol entry =>
    cases h with
    | resolved symbol' entry' =>
      obtain rfl : symbol = symbol' := Except.ok.inj shown
      have first := hg symbol entry rfl
      have second := hh symbol entry' rfl
      rw [Except.ok.inj (first.symm.trans second)]
    | unresolved reason => cases shown
  | unresolved reason =>
    cases h with
    | resolved symbol entry => cases shown
    | unresolved reason' => rw [Except.error.inj shown]

/-- Twins that are made from open images do the same. -/
theorem Loader.Backs.alike {loader : Loader} {m n : TestModule} (hm : loader.Backs m)
    (hn : loader.Backs n) (twins : m.Twins n) : m.Alike n := by
  obtain ⟨image, mine, made⟩ := hm
  obtain ⟨image', its, made'⟩ := hn
  obtain rfl : image = image' := by
    rw [twins.file, its] at mine
    exact (Option.some.inj mine).symm
  have probe : m.probe = n.probe := Except.ok.inj (made.probe.symm.trans made'.probe)
  have hooks : m.hooks = n.hooks := funext fun role =>
    Hook.eq_of_shown (twins.roles role) (made.hooks role) (made'.hooks role)
  exact ⟨twins.file, probe, hooks⟩

/-! ## Exchanges -/

/-- The same step, or one that works on a twin and waits for the same calls. -/
inductive Session.Exchanges (session : Session) (brings : Bool) : Step → Step → Prop
  | same (step : Step) : Exchanges session brings step step
  | twin {step : Step} {handle other : String} {m n : TestModule}
      (uses : step.handle? = some handle) (here : session.module? handle = some m)
      (there : session.module? other = some n) (twins : m.Twins n)
      (waits : session.WaitsAlike step brings m n) :
      Exchanges session brings step (step.withHandle other)

/-- Two scripts that take the same steps but for exchanges, where the first runs in a session. They
go on alike after outcomes that differ in names. -/
inductive Script.Exchanged : Frame → Session → Script → Script → Prop
  | exit {frame : Frame} {session : Session} (code : Int32) :
      Exchanged frame session (.exit code) (.exit code)
  | call {frame : Frame} {session : Session} (service : Service)
      {next next' : service.Reply → Script}
      (rest : Exchanged (session.rig.serve frame service).2.1
        { session with rig := (session.rig.serve frame service).2.2 }
        (next (session.rig.serve frame service).1) (next' (session.rig.serve frame service).1)) :
      Exchanged frame session (.call service next) (.call service next')
  | note {frame : Frame} {session : Session} {line line' : Note} {next next' : Script}
      (same : line'.anonymous = line.anonymous) (rest : Exchanged frame session next next') :
      Exchanged frame session (.note line next) (.note line' next')
  | step {frame : Frame} {session : Session} {taken taken' : Step}
      {next next' : Outcome → Script} (exchanges : session.Exchanges false taken taken')
      (rest : ∀ outcome, outcome.anonymous = (session.perform taken none).1.anonymous →
        Exchanged frame (session.perform taken none).2 (next (session.perform taken none).1)
          (next' outcome)) :
      Exchanged frame session (.step taken next) (.step taken' next')
  | stepWith {frame : Frame} {session : Session} {taken taken' : Step} {body body' : Script}
      {next next' : Outcome → Script} (exchanges : session.Exchanges true taken taken')
      (inner : ∀ frame' session', session.Starts taken frame' session' →
        Exchanged frame' session' body body')
      (rest : ∀ outcome,
        outcome.anonymous = (session.perform taken (some body.run)).1.anonymous →
        Exchanged frame (session.perform taken (some body.run)).2
          (next (session.perform taken (some body.run)).1) (next' outcome)) :
      Exchanged frame session (.stepWith taken body next) (.stepWith taken' body' next')
  | thread {frame : Frame} {session : Session} {body body' : Script}
      {next next' : List Note → Script} (inner : Exchanged frame session.onThread body body')
      (rest : ∀ trace, Note.anonymousAll trace =
          Note.anonymousAll (body.run frame session.onThread).trace →
        Exchanged (body.run frame session.onThread).frame
          (session.backFrom (body.run frame session.onThread).session)
          (next (body.run frame session.onThread).trace) (next' trace)) :
      Exchanged frame session (.thread body next) (.thread body' next')
  | lookUp {frame : Frame} {session : Session} (name : ContextName)
      {next next' : Option FoundContext → Script}
      (rest : Exchanged frame (session.lookUp frame.given name).2
        (next (session.lookUp frame.given name).1) (next' (session.lookUp frame.given name).1)) :
      Exchanged frame session (.lookUp name next) (.lookUp name next')
  | bindName {frame : Frame} {session : Session} (name : String) (id : ContextId)
      {next next' : Script} (rest : Exchanged frame (session.bindName name id) next next') :
      Exchanged frame session (.bindName name id next) (.bindName name id next')
  | markReleased {frame : Frame} {session : Session} (id : ContextId) {next next' : Script}
      (rest : Exchanged frame (session.markReleased id) next next') :
      Exchanged frame session (.markReleased id next) (.markReleased id next')

namespace Session

/-- Scripts that are exchanged where a step starts them, or none. -/
def ScriptsExchanged (session : Session) (step : Step) (script script' : Option Script) : Prop :=
  Option.Rel (fun body body' => ∀ frame s, session.Starts step frame s →
    Script.Exchanged frame s body body') script script'

/-- The steps of a session but for exchanges. -/
inductive Exchanged : Session → List (Step × Option Script) → List (Step × Option Script) → Prop
  | nil (session : Session) : Exchanged session [] []
  | cons {session : Session} {step step' : Step} {script script' : Option Script}
      {rest rest' : List (Step × Option Script)}
      (exchanges : session.quiet.Exchanges script.isSome step step')
      (scripts : session.quiet.ScriptsExchanged step script script')
      (later : Exchanged (session.take step script).2 rest rest') :
      Exchanged session ((step, script) :: rest) ((step', script') :: rest')

variable {s t : Session}

theorem Exchanges.perform {step step' : Step} {script script' : Option Runner}
    (exchanges : s.Exchanges script.isSome step step') (backed : s.Backed)
    (like : s.SameButNames t)
    (runs : Option.Rel (Runner.SameButNames (s.Starts step)) script script') :
    AnswersSame (s.perform step script) (t.perform step' script') := by
  cases exchanges with
  | same => exact like.perform_same runs
  | twin uses here there twins waits =>
    have alike := (backed.module? here).alike (backed.module? there) twins
    exact like.perform_other runs uses here there alike waits

theorem Backed.starts {step : Step} {frame : Frame} {session : Session} (backed : s.Backed)
    (starts : s.Starts step frame session) : session.Backed := by
  cases starts <;> exact backed.of_same rfl rfl rfl

end Session

/-! ## Scripts

The operations of scripts may be put around exchanges. -/

namespace Script.Exchanged
variable {frame : Frame} {session : Session} {next next' : Script}

theorem getData {offset : UInt32} {size : UInt64}
    (rest : ∀ frame rig, Exchanged frame { session with rig } next next') :
    Exchanged frame session (.getData offset size next) (.getData offset size next') := by
  refine .call _ ?_
  split
  · exact .note rfl (rest _ _)
  · split
    · exact .note rfl (rest _ _)
    · exact .call _ (.note rfl (rest _ _))

theorem nested {taken taken' : Step} (exchanges : session.Exchanges false taken taken')
    (rest : Exchanged frame (session.perform taken none).2 next next') :
    Exchanged frame session (.nested taken none next) (.nested taken' none next') :=
  .step exchanges fun _ same => .note (Outcome.anonymous_note same) rest

end Script.Exchanged

/-! ## Runs -/

/-- Exchanged scripts run alike, but for names. -/
theorem Script.Exchanged.run {frame : Frame} {s : Session} {first second : Script}
    (h : Exchanged frame s first second) (backed : s.Backed) {t : Session}
    (like : s.SameButNames t) : (first.run frame s).SameButNames (second.run frame t) := by
  -- the first session stays backed all along, which makes twins do the same
  induction h generalizing t with
  | exit code => exact ⟨rfl, rfl, rfl, like⟩
  | @call frame s service next next' rest ih =>
    obtain ⟨reply, same, after⟩ := like.rig.serve frame service
    unfold Script.run
    dsimp only
    rw [reply, same]
    exact ih (backed.of_same rfl rfl rfl) (like.withRig after)
  | @note _ _ line line' _ _ same rest ih =>
    have ended := ih backed like
    exact { ended with trace := congrArg₂ List.cons same ended.trace }
  | @step frame s taken taken' next next' exchanges rest ih =>
    have runs : Option.Rel (Runner.SameButNames (s.Starts taken)) none none := .none
    obtain ⟨outcome, after⟩ := exchanges.perform backed like runs
    exact ih _ outcome (backed.perform taken none) after
  | @stepWith frame s taken taken' body body' next next' exchanges inner rest ihInner ih =>
    have runs : Option.Rel (Runner.SameButNames (s.Starts taken)) (some body.run)
        (some body'.run) :=
      .some fun _ _ starts _ same => ihInner _ _ starts (backed.starts starts) same
    obtain ⟨outcome, after⟩ := exchanges.perform backed like runs
    exact ih _ outcome (backed.perform taken (some body)) after
  | @thread frame s body body' next next' inner rest ihInner ih =>
    have started : s.onThread.Backed := backed.of_same rfl rfl rfl
    have kept := started.run body frame
    have ended := ihInner started like.onThread
    have back := like.backFrom ended.session
    unfold Script.run
    dsimp only
    rw [ended.frame]
    exact ih _ ended.trace (kept.of_same rfl rfl rfl) back
  | @lookUp frame s name next next' rest ih =>
    obtain ⟨found, after⟩ := like.lookUp frame.given name
    have kept : (s.lookUp frame.given name).2.Backed := by
      cases name <;> exact backed.of_same rfl rfl rfl
    unfold Script.run
    dsimp only
    rw [found]
    exact ih kept after
  | @bindName frame s name id next next' rest ih =>
    refine ih (backed.of_same rfl rfl rfl) ?_
    obtain ⟨rig, same, rfl⟩ := like
    exact ⟨rig, same, rfl⟩
  | @markReleased frame s id next next' rest ih =>
    refine ih (backed.of_same rfl rfl rfl) ?_
    obtain ⟨rig, same, rfl⟩ := like
    exact ⟨rig, same, rfl⟩

/-- A step with its script, exchanged. -/
theorem Session.Exchanges.take {s t : Session} {step step' : Step} {script script' : Option Script}
    (exchanges : s.quiet.Exchanges script.isSome step step')
    (scripts : s.quiet.ScriptsExchanged step script script') (backed : s.Backed)
    (like : s.SameButNames t) :
    (t.take step' script').1.anonymous = (s.take step script).1.anonymous ∧
      (s.take step script).2.SameButNames (t.take step' script').2 := by
  have quiet : s.quiet.Backed := backed.of_same rfl rfl rfl
  have runs : Option.Rel (Runner.SameButNames (s.quiet.Starts step)) (script.map Script.run)
      (script'.map Script.run) := by
    cases scripts with
    | none => exact .none
    | some same =>
      exact .some fun frame u starts _ like => (same frame u starts).run (quiet.starts starts) like
  rw [← Option.isSome_map (f := Script.run)] at exchanges
  obtain ⟨outcome, after⟩ := exchanges.perform quiet like.quiet runs
  refine ⟨?_, after⟩
  unfold Session.take StepReport.anonymous
  dsimp only
  rw [outcome, after.rig.log, after.rig.output]

/-- Exchanged steps have the same reports, but for names. -/
theorem Session.Exchanged.takeAll {s : Session} {steps steps' : List (Step × Option Script)}
    (h : s.Exchanged steps steps') (backed : s.Backed) {t : Session} (like : s.SameButNames t) :
    (t.takeAll steps').map StepReport.anonymous = (s.takeAll steps).map StepReport.anonymous := by
  induction h generalizing t with
  | nil => rfl
  | @cons s step step' script script' rest rest' exchanges scripts later ih =>
    obtain ⟨report, after⟩ := exchanges.take scripts backed like
    have reports := ih (backed.take step script) after
    exact congrArg₂ List.cons report reports

end HidRig
