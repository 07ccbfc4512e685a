import HidRig.Proofs.Contexts.Account
import HidRig.Proofs.Session.Steps

/-! # Native code on its own

Code that calls nothing runs from one step of its own to the next, and each step finds the
surroundings as the last one left them. If it takes no steps of its session either, nothing is
reported in between.

* `Alone`: such a run, with the surroundings before and after it.
* `Session.not_isServed_of_mem`: the acts of a step are none of the code that takes it.
* `Native.alone`, `Script.alone`, `Session.alone_ended`: runs whose acts are all their own.
* `Alone.split`: such a run may be cut between any two acts.
-/

namespace HidRig

/-- A change between two steps of native code. If it is silent, nothing is reported. -/
structure Rig.Between (silent : Prop) (r s : Rig) : Prop where
  aside : r.Aside s
  log : silent → s.log = r.log

theorem Rig.Between.refl (silent : Prop) (r : Rig) : r.Between silent r :=
  ⟨.refl r, fun _ => rfl⟩

theorem Rig.Between.trans {silent : Prop} {r s t : Rig} (h : r.Between silent s)
    (k : s.Between silent t) : r.Between silent t :=
  ⟨h.aside.trans k.aside, fun quiet => (k.log quiet).trans (h.log quiet)⟩

/-- Native code leads from one state to another by steps of its own. -/
inductive Alone (silent : Prop) : Frame → Rig → List Act → Frame → Rig → Prop
  | done {frame : Frame} {r t : Rig} (between : r.Between silent t) :
      Alone silent frame r [] frame t
  | served {frame last : Frame} {r s t : Rig} {acts : List Act} (between : r.Between silent s)
      (service : Service)
      (rest : Alone silent (s.serve frame service).2.1 (s.serve frame service).2.2 acts last t) :
      Alone silent frame r (.served s frame service :: acts) last t

namespace Alone
variable {silent : Prop} {frame last : Frame} {r s t : Rig} {xs ys acts : List Act}

theorem after (h : r.Between silent s) (k : Alone silent frame s acts last t) :
    Alone silent frame r acts last t := by
  cases k with
  | done between => exact .done (h.trans between)
  | served between service rest => exact .served (h.trans between) service rest

/-- A run may be cut before any of its acts. -/
theorem split (h : Alone silent frame r (xs ++ ys) last t) :
    ∃ mid, Alone silent frame r xs mid (stateAt t ys) ∧
      Alone silent mid (stateAt t ys) ys last t := by
  induction xs generalizing frame r with
  | nil =>
    cases h with
    | done between => exact ⟨_, .done between, .done (.refl silent t)⟩
    | served between service rest =>
      exact ⟨_, .done between, .served (.refl silent _) service rest⟩
  | cons act xs ih =>
    cases h with
    | served between service rest =>
      obtain ⟨mid, front, back⟩ := ih rest
      exact ⟨mid, .served between service front, back⟩

end Alone

/-! ## Steps -/

/-- What a step does is done by other code than that which takes it. -/
theorem Session.not_isServed_of_mem (session : Session) (step : Step) (script : Option Tracer) :
    ∀ act ∈ session.tracedStep step script, ¬ act.IsServed := by
  intro act member own
  cases step with
  | probe handle args =>
    obtain ⟨module, -, member⟩ := List.mem_flatMap.mp member
    obtain ⟨args, -, rfl⟩ := List.mem_map.mp member
    exact own
  | hook handle role data options =>
    obtain ⟨module, -, member⟩ := List.mem_flatMap.mp member
    split at member
    · cases member
    · cases List.mem_singleton.mp member
      exact own
  | install handle data =>
    obtain ⟨module, -, member⟩ := List.mem_flatMap.mp member
    cases List.mem_singleton.mp member
    exact own
  | direct handle =>
    obtain ⟨module, -, member⟩ := List.mem_flatMap.mp member
    obtain ⟨tracer, -, rfl⟩ := List.mem_map.mp member
    exact own
  | _ => cases member

/-- A step that does nothing of its own leaves no record. -/
theorem Session.between_perform {silent : Prop} (session : Session) (step : Step)
    (script : Option Script) (own : ∀ act ∈ session.acts step script, act.IsServed)
    (loud : ¬ silent) :
    session.acts step script = [] ∧
      session.rig.Between silent (session.perform step (script.map Script.run)).2.rig := by
  have nothing : session.acts step script = [] :=
    List.eq_nil_iff_forall_not_mem.mpr fun act member =>
      session.not_isServed_of_mem step _ act member (own act member)
  have chronicle := session.chronicle_perform (Script.chronicled script) ⟨0⟩ step
  rw [nothing] at chronicle
  cases chronicle with
  | done aside => exact ⟨nothing, aside, fun quiet => absurd quiet loud⟩

/-! ## Runs -/

theorem Native.alone {α : Type} (silent : Prop) : ∀ (body : Native α) (frame : Frame) (rig : Rig),
    Alone silent frame rig (body.acts frame rig) (body.run frame rig).2.1 (body.run frame rig).2.2
  | .done _, _, rig => .done (.refl silent rig)
  | .call service next, frame, rig =>
    .served (.refl silent rig) service ((next (rig.serve frame service).1).alone silent _ _)

theorem Script.alone {silent : Prop} : ∀ (script : Script) (frame : Frame) (session : Session),
    (∀ act ∈ script.acts frame session, act.IsServed) →
    (silent → script.steps frame session = []) →
    Alone silent frame session.rig (script.acts frame session) (script.run frame session).frame
      (script.run frame session).session.rig
  | .exit _, _, session, _, _ => .done (.refl silent session.rig)
  | .call service next, frame, session, own, quiet =>
    .served (.refl silent session.rig) service
      ((next (session.rig.serve frame service).1).alone _ _
        (fun act member => own act (.tail _ member)) quiet)
  | .note _ next, frame, session, own, quiet => next.alone frame session own quiet
  | .step taken next, frame, session, own, quiet => by
    have loud : ¬ silent := fun silent => nomatch quiet silent
    obtain ⟨here, later⟩ := List.forall_mem_append.mp own
    obtain ⟨nothing, between⟩ := session.between_perform taken none here loud
    have rest := (next _).alone frame _ later fun silent => absurd silent loud
    show Alone silent frame session.rig (session.acts taken none ++ _) _ _
    rw [nothing]
    exact .after between rest
  | .stepWith taken body next, frame, session, own, quiet => by
    have loud : ¬ silent := fun silent => nomatch quiet silent
    obtain ⟨here, later⟩ := List.forall_mem_append.mp own
    obtain ⟨nothing, between⟩ := session.between_perform taken (some body) here loud
    have rest := (next _).alone frame _ later fun silent => absurd silent loud
    show Alone silent frame session.rig (session.acts taken (some body) ++ _) _ _
    rw [nothing]
    exact .after between rest
  | .thread body next, frame, session, own, _ => (own _ (.head _)).elim
  | .lookUp name next, frame, session, own, quiet => by
    have rest (own : ∀ act ∈ (next _).acts frame _, act.IsServed) :=
      (next _).alone frame (session.lookUp frame.given name).2 own quiet
    cases name with
    | foreign =>
      exact .served (.refl silent session.rig) _ (rest fun act member => own act (.tail _ member))
    | _ => exact rest own
  | .bindName name id next, frame, session, own, quiet =>
    next.alone frame (session.bindName name id) own quiet
  | .markReleased id next, frame, session, own, quiet =>
    next.alone frame (session.markReleased id) own quiet

namespace Session
variable (silent : Prop) (session : Session) (script : Option Script)

theorem alone_runEntry (entry : EntryPoint) (frame : Frame)
    (own : ∀ act ∈ session.entryActs entry (script.map Script.acts) frame, act.IsServed)
    (quiet : silent → session.entrySteps entry (script.map Script.steps) frame = []) :
    let finish := session.runEntry entry (script.map Script.run) frame
    Alone silent frame session.rig (session.entryActs entry (script.map Script.acts) frame)
      finish.frame finish.session.rig := by
  cases entry with
  | code body => exact body.alone silent frame session.rig
  | helper => exact .done (.refl silent session.rig)
  | scripted =>
    cases script with
    | none => exact .done (.refl silent session.rig)
    | some body => exact body.alone frame session own quiet

/-- The native code of a call that calls nothing itself, from its start to its end. -/
theorem alone_ended (module : TestModule) (call : Call)
    (own : ∀ act ∈ session.callActs module call script, act.IsServed)
    (quiet : silent → session.callSteps module call (script.map Script.steps) = []) :
    let start := call.start module session.rig
    let ended := session.ended module call script
    Alone silent start.1 start.2 (session.callActs module call script) ended.frame
      ended.session.rig :=
  alone_runEntry silent (session.begun module call) script (call.entry module) _ own quiet

end Session

end HidRig
