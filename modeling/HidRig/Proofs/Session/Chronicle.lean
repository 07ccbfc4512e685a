import HidRig.Proofs.Session.Acts

/-! # Records tell what happened

What a record says about the state before and after it. All that a run does to the rig besides the
acts of its record leaves tables, invocation and memory as they are.

* `Rig.Aside`: such a change.
* `Rig.Installs`: a table is installed outside of calls.
* `Chronicle`: a record together with the states between its acts.
* `Session.chronicle_ended`, `Script.chronicle`, `Session.chronicle_perform`,
  `Session.chronicle_afterAll`: the record of a run is a chronicle of it.
-/

namespace HidRig

/-! ## Changes that are no acts -/

/-- A change of nothing but what is reported and printed. -/
structure Rig.Aside (r s : Rig) : Prop where
  tables : s.tables = r.tables
  armed : s.armed = r.armed
  buffers : s.buffers = r.buffers
  bufferCount : s.bufferCount = r.bufferCount
  contexts : s.contexts = r.contexts

namespace Rig.Aside

theorem refl (r : Rig) : r.Aside r :=
  ⟨rfl, rfl, rfl, rfl, rfl⟩

theorem trans {r s t : Rig} (h : r.Aside s) (k : s.Aside t) : r.Aside t where
  tables := k.tables.trans h.tables
  armed := k.armed.trans h.armed
  buffers := k.buffers.trans h.buffers
  bufferCount := k.bufferCount.trans h.bufferCount
  contexts := k.contexts.trans h.contexts

theorem report (r : Rig) (event : Event) : r.Aside (r.report event) :=
  ⟨rfl, rfl, rfl, rfl, rfl⟩

theorem reportAll (r : Rig) (events : List Event) : r.Aside (r.reportAll events) :=
  ⟨rfl, rfl, rfl, rfl, rfl⟩

theorem quiet (session : Session) : session.rig.Aside session.quiet.rig :=
  ⟨rfl, rfl, rfl, rfl, rfl⟩

theorem load (session : Session) (ref : CacheRef) (cache : ModuleCache) (name handle : String) :
    session.rig.Aside (session.load ref cache name handle).2.rig := by
  unfold Session.load
  dsimp only
  split <;> exact reportAll session.rig _

end Rig.Aside

/-- The installation of a table outside of calls, perhaps over a buffer made for it. -/
structure Rig.Installs (s : Rig) (file : FileId) (table : ServiceTable) (t : Rig) : Prop where
  tables : t.tables = fun f => if f = file then table else s.tables f
  armed : t.armed = s.armed
  contexts : t.contexts = s.contexts
  bufferCount_le : s.bufferCount ≤ t.bufferCount
  buffers_old : ∀ id : BufferId, id.number < s.bufferCount → t.buffers id = s.buffers id
  buffers_new : ∀ id : BufferId, t.bufferCount ≤ id.number → t.buffers id = s.buffers id
  /-- What the table points at is new, and as long as the table says. -/
  data : ∀ id, table.data = some id → s.bufferCount ≤ id.number ∧
    ∃ bytes, t.buffers id = some bytes ∧ table.dataLen.toNat ≤ bytes.length

theorem Session.installs_install (session : Session) (module : TestModule) (data : Option Bytes) :
    session.rig.Installs module.file (session.rig.bareTable data).1
      (session.install module data).2.rig := by
  cases data with
  | none =>
    exact ⟨rfl, rfl, rfl, Nat.le_refl _, fun _ _ => rfl, fun _ _ => rfl, nofun⟩
  | some bytes =>
    have hother : ∀ id : BufferId, id.number ≠ session.rig.bufferCount →
        (session.install module (some bytes)).2.rig.buffers id = session.rig.buffers id := by
      intro id hid
      have hne : id ≠ ⟨session.rig.bufferCount⟩ := fun h => hid (by rw [h])
      exact if_neg hne
    refine ⟨rfl, rfl, rfl, Nat.le_succ _, ?_, ?_, fun id hid => ?_⟩
    · exact fun id hid => hother id (Nat.ne_of_lt hid)
    · exact fun id hid => hother id (Nat.ne_of_gt hid)
    · obtain rfl : ⟨session.rig.bufferCount⟩ = id := Option.some.inj hid
      exact ⟨Nat.le_refl _, bytes, if_pos rfl, ServiceTable.toNat_dataLen_le bytes.length⟩

/-! ## Chronicles -/

/-- The code of a file leads from one state to another, with a record of what happens meanwhile. -/
inductive Chronicle : FileId → Rig → List Act → Rig → Prop
  | done {file : FileId} {r t : Rig} (aside : r.Aside t) : Chronicle file r [] t
  | served {file : FileId} {r s t : Rig} {acts : List Act} (aside : r.Aside s) (frame : Frame)
      (service : Service) (own : frame.file = file)
      (rest : Chronicle file (s.serve frame service).2.2 acts t) :
      Chronicle file r (.served s frame service :: acts) t
  | installed {file : FileId} {r s u t : Rig} {acts : List Act} (aside : r.Aside s)
      (place : FileId) (table : ServiceTable) (installs : s.Installs place table u)
      (rest : Chronicle file u acts t) : Chronicle file r (.installed s place table :: acts) t
  | called {file : FileId} {r s e t : Rig} {inner acts : List Act} (aside : r.Aside s)
      (module : TestModule) (call : Call) (code : Int32) (frame : Frame)
      (body : Chronicle module.file (call.start module s).2 inner e)
      (rest : Chronicle file (call.finish module s code frame e) acts t) :
      Chronicle file r (.called s module call inner :: acts) t
  | ran {file place : FileId} {r s e t : Rig} {inner acts : List Act} (aside : r.Aside s)
      (body : Chronicle place s inner e) (rest : Chronicle file e acts t) :
      Chronicle file r (.ran s inner :: acts) t
  | threaded {file : FileId} {r s e t : Rig} {inner acts : List Act} (aside : r.Aside s)
      (body : Chronicle file { s with armed := none } inner e)
      (rest : Chronicle file { e with armed := s.armed } acts t) :
      Chronicle file r (.threaded s inner :: acts) t

namespace Chronicle
variable {file : FileId} {r s t : Rig} {xs ys : List Act}

theorem after (h : r.Aside s) (k : Chronicle file s xs t) : Chronicle file r xs t := by
  cases k with
  | done aside => exact done (h.trans aside)
  | served aside frame service own rest => exact served (h.trans aside) frame service own rest
  | installed aside place table installs rest =>
    exact installed (h.trans aside) place table installs rest
  | called aside module call code frame body rest =>
    exact called (h.trans aside) module call code frame body rest
  | ran aside body rest => exact ran (h.trans aside) body rest
  | threaded aside body rest => exact threaded (h.trans aside) body rest

theorem append (h : Chronicle file r xs s) (k : Chronicle file s ys t) :
    Chronicle file r (xs ++ ys) t := by
  induction h with
  | done aside => exact k.after aside
  | served aside frame service own _ ih => exact served aside frame service own (ih k)
  | installed aside place table installs _ ih => exact installed aside place table installs (ih k)
  | called aside module call code frame body _ _ ih =>
    exact called aside module call code frame body (ih k)
  | ran aside body _ _ ih => exact ran aside body (ih k)
  | threaded aside body _ _ ih => exact threaded aside body (ih k)

theorem refl (file : FileId) (r : Rig) : Chronicle file r [] r :=
  done (.refl r)

end Chronicle

/-- The state before the acts that are still to come, if `last` is the state after them. -/
def stateAt (last : Rig) : List Act → Rig
  | [] => last
  | act :: _ => act.before

namespace Chronicle
variable {file : FileId} {r t : Rig} {xs ys : List Act}

theorem aside_stateAt (h : Chronicle file r ys t) : r.Aside (stateAt t ys) := by
  cases h <;> assumption

theorem at_start (h : Chronicle file r ys t) : Chronicle file (stateAt t ys) ys t := by
  cases h with
  | done aside => exact refl file t
  | served _ frame service own rest => exact served (.refl _) frame service own rest
  | installed _ place table installs rest => exact installed (.refl _) place table installs rest
  | called _ module call code frame body rest =>
    exact called (.refl _) module call code frame body rest
  | ran _ body rest => exact ran (.refl _) body rest
  | threaded _ body rest => exact threaded (.refl _) body rest

/-- A record may be cut between any two acts. -/
theorem split : ∀ {xs : List Act} {r : Rig}, Chronicle file r (xs ++ ys) t →
    Chronicle file r xs (stateAt t ys) ∧ Chronicle file (stateAt t ys) ys t
  | [], _, h => ⟨.done h.aside_stateAt, h.at_start⟩
  | _ :: _, _, .served aside frame service own rest =>
    ⟨.served aside frame service own rest.split.1, rest.split.2⟩
  | _ :: _, _, .installed aside place table installs rest =>
    ⟨.installed aside place table installs rest.split.1, rest.split.2⟩
  | _ :: _, _, .called aside module call code frame body rest =>
    ⟨.called aside module call code frame body rest.split.1, rest.split.2⟩
  | _ :: _, _, .ran aside body rest => ⟨.ran aside body rest.split.1, rest.split.2⟩
  | _ :: _, _, .threaded aside body rest => ⟨.threaded aside body rest.split.1, rest.split.2⟩

end Chronicle

/-! ## Native code -/

@[simp] theorem Rig.serve_file (rig : Rig) (frame : Frame) (service : Service) :
    (rig.serve frame service).2.1.file = frame.file := by
  cases service <;> rfl

theorem Native.chronicle {α : Type} : ∀ (body : Native α) (frame : Frame) (rig : Rig),
    Chronicle frame.file rig (body.acts frame rig) (body.run frame rig).2.2
  | .done _, frame, rig => .refl frame.file rig
  | .call service next, frame, rig => by
    have rest := (next (rig.serve frame service).1).chronicle (rig.serve frame service).2.1
      (rig.serve frame service).2.2
    rw [Rig.serve_file] at rest
    exact .served (.refl rig) frame service rfl rest

/-! ## Steps -/

/-- The runs of a script, if there is one, have their records as chronicles. -/
def Chronicled (script : Option Script) : Prop :=
  ∀ body, script = some body → ∀ frame session,
    Chronicle frame.file session.rig (body.acts frame session) (body.run frame session).session.rig

namespace Session
variable {script : Option Script} (session : Session)

theorem chronicle_runEntry (hs : Chronicled script) (entry : EntryPoint) (frame : Frame) :
    Chronicle frame.file session.rig (session.entryActs entry (script.map Script.acts) frame)
      (session.runEntry entry (script.map Script.run) frame).session.rig := by
  cases entry with
  | code body => exact body.chronicle frame session.rig
  | helper => exact .refl frame.file session.rig
  | scripted =>
    cases script with
    | none => exact .refl frame.file session.rig
    | some body => exact hs body rfl frame session

theorem chronicle_ended (hs : Chronicled script) (module : TestModule) (call : Call) :
    Chronicle module.file (call.start module session.rig).2 (session.callActs module call script)
      (session.ended module call script).session.rig := by
  have body := (session.begun module call).chronicle_runEntry hs (call.entry module)
    (call.start module session.rig).1
  rw [Call.start_file] at body
  exact body

theorem chronicle_called (hs : Chronicled script) (file : FileId) (module : TestModule)
    (call : Call) :
    Chronicle file session.rig [session.tracedCall module call (script.map Script.acts)]
      (session.called module call script).rig :=
  .called (.refl session.rig) module call _ _ (session.chronicle_ended hs module call)
    (.refl file _)

theorem aside_withCache {ref : CacheRef} {go : ModuleCache → Outcome × Session}
    (h : ∀ cache, session.rig.Aside (go cache).2.rig) :
    session.rig.Aside (session.withCache ref go).2.rig := by
  unfold withCache
  split
  · exact .refl session.rig
  · exact h _

theorem chronicle_direct (hs : Chronicled script) (file : FileId) (module : TestModule) :
    Chronicle file session.rig
      ((script.map Script.acts).toList.map fun tracer =>
        .ran session.rig (tracer ⟨module.file, none, none⟩ session))
      (session.direct module (script.map Script.run)).2.rig := by
  cases script with
  | none => exact .refl file session.rig
  | some body => exact .ran (.refl session.rig) (hs body rfl _ session) (.refl file _)

theorem chronicle_lookUp (frame : Frame) (name : ContextName) :
    Chronicle frame.file session.rig (session.lookUpActs frame name)
      (session.lookUp frame.given name).2.rig := by
  cases name with
  | foreign => exact .served (.refl session.rig) frame _ rfl (.refl frame.file _)
  | _ => exact .refl frame.file session.rig

theorem chronicle_perform (hs : Chronicled script) (file : FileId) (step : Step) :
    Chronicle file session.rig (session.acts step script)
      (session.perform step (script.map Script.run)).2.rig := by
  let related (acts : List Act) (after : Session) : Prop :=
    Chronicle file session.rig acts after.rig
  have refused : related [] session := .refl file session.rig
  cases step with
  | load ref name handle =>
    refine .done (session.aside_withCache fun cache => ?_)
    have loaded := Rig.Aside.load session ref cache name handle
    split <;> simp_all [reply]
  | require ref name handle =>
    refine .done (session.aside_withCache fun cache => ?_)
    have loaded := Rig.Aside.load session ref cache name handle
    split
    · simp_all [reply]
    · exact loaded.trans (by simp_all [reply, Rig.Aside.report])
  | inspect ref names => exact .done (session.aside_withCache fun _ => .refl session.rig)
  | describe handle =>
    unfold perform withModule
    dsimp only
    split <;> exact .refl file session.rig
  | make items => exact .refl file session.rig
  | remove path => exact .refl file session.rig
  | probe handle args =>
    refine session.of_withIdle related refused (fun module => ?_) fun module free => ?_
    · cases args with
      | none => exact refused
      | some args => exact session.chronicle_called hs file module (.probe args)
    · cases args with
      | none => rfl
      | some args => cases free
  | hook handle role data options =>
    exact session.of_hook related refused handle role data options script fun module call =>
      session.chronicle_called hs file module call
  | install handle data =>
    refine session.of_withIdle related refused (fun module => ?_) fun _ free => by cases free
    exact .installed (.refl session.rig) module.file _ (session.installs_install module data)
      (.refl file _)
  | direct handle =>
    exact session.of_withModule related refused fun module => session.chronicle_direct hs file module

end Session

/-! ## Scripts and sessions -/

theorem Script.run_file : ∀ (script : Script) (frame : Frame) (session : Session),
    (script.run frame session).frame.file = frame.file
  | .exit _, _, _ => rfl
  | .call service next, frame, session => by
    rw [← session.rig.serve_file frame service]
    exact (next _).run_file _ _
  | .note _ next, frame, session => next.run_file frame session
  | .step _ next, frame, _ => (next _).run_file frame _
  | .stepWith _ _ next, frame, _ => (next _).run_file frame _
  | .thread body next, frame, session => by
    rw [← body.run_file frame session.onThread]
    exact (next _).run_file _ _
  | .lookUp _ next, frame, _ => (next _).run_file frame _
  | .bindName _ _ next, frame, _ => next.run_file frame _
  | .markReleased _ next, frame, _ => next.run_file frame _

theorem Script.chronicle : ∀ (script : Script) (frame : Frame) (session : Session),
    Chronicle frame.file session.rig (script.acts frame session)
      (script.run frame session).session.rig
  | .exit _, frame, session => .refl frame.file session.rig
  | .call service next, frame, session => by
    have rest := (next (session.rig.serve frame service).1).chronicle
      (session.rig.serve frame service).2.1
      { session with rig := (session.rig.serve frame service).2.2 }
    rw [Rig.serve_file] at rest
    exact .served (.refl session.rig) frame service rfl rest
  | .note _ next, frame, session => next.chronicle frame session
  | .step taken next, frame, session => by
    have hs : Chronicled none := nofun
    exact (session.chronicle_perform hs frame.file taken).append ((next _).chronicle frame _)
  | .stepWith taken body next, frame, session => by
    have hs : Chronicled (some body) := by
      intro _ h
      cases h
      exact body.chronicle
    exact (session.chronicle_perform hs frame.file taken).append ((next _).chronicle frame _)
  | .thread body next, frame, session => by
    have inner := body.chronicle frame session.onThread
    have rest := (next (body.run frame session.onThread).trace).chronicle
      (body.run frame session.onThread).frame
      (session.backFrom (body.run frame session.onThread).session)
    rw [body.run_file] at rest
    exact .threaded (.refl session.rig) inner rest
  | .lookUp name next, frame, session =>
    (session.chronicle_lookUp frame name).append ((next _).chronicle frame _)
  | .bindName name id next, frame, session => next.chronicle frame (session.bindName name id)
  | .markReleased id next, frame, session => next.chronicle frame (session.markReleased id)

theorem Script.chronicled (script : Option Script) : Chronicled script :=
  fun body _ => body.chronicle

theorem Session.chronicle_afterAll (file : FileId) : ∀ (steps : List (Step × Option Script))
    (session : Session),
    Chronicle file session.rig (session.actsAll steps) (session.afterAll steps).rig
  | [], session => .refl file session.rig
  | (step, script) :: steps, session => by
    have first := session.quiet.chronicle_perform (Script.chronicled script) file step
    have rest := chronicle_afterAll file steps (session.take step script).2
    exact (first.append rest).after (.quiet session)

end HidRig
