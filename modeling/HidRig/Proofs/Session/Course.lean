import HidRig.Proofs.Session.Steps

/-! # The course of a session

Files, open objects, caches and handles change by the steps that are taken, at whatever depth, and
by nothing that native code does in between. A relation that looks at them alone holds of a whole
run once it holds of single steps.

* `Step.runsCode`: the steps that change them only through the steps that their code takes.
* `Session.Course`: what such a relation has to respect.
* `Session.Course.script`, `Session.Course.perform`, `Session.Course.afterAll`: it relates the two
  ends of a script, of a step and of a whole session.
-/

namespace HidRig

/-- A step that runs native code. -/
def Step.runsCode : Step → Bool
  | .probe .. | .hook .. | .direct _ => true
  | _ => false

/-- A relation of two sessions and the steps that lead from the first to the second. -/
structure Session.Course (rel : Session → List Taken → Session → Prop) : Prop where
  aside : ∀ {s t : Session}, t.stock = s.stock → t.handles = s.handles → rel s [] t
  append : ∀ {r s t : Session} {xs ys : List Taken}, rel r xs s → rel s ys t → rel r (xs ++ ys) t
  plain : ∀ (s : Session) {step : Step} (script : Option Runner), step.runsCode = false →
    rel s [s.taken step script] (s.perform step script).2
  /-- A step that runs code comes before the steps that the code takes. -/
  around : ∀ (s : Session) {step : Step} (script : Option Runner) {inner : List Taken},
    step.runsCode = true → rel s inner (s.perform step script).2 →
    rel s (s.taken step script :: inner) (s.perform step script).2

namespace Session.Course
variable {rel : Session → List Taken → Session → Prop} (h : Course rel)
include h

theorem after {r s t : Session} {xs : List Taken} (stock : s.stock = r.stock)
    (handles : s.handles = r.handles) (rest : rel s xs t) : rel r xs t := by
  have front := h.aside stock handles
  simpa using h.append front rest

theorem before {r s t : Session} {xs : List Taken} (rest : rel r xs s)
    (stock : t.stock = s.stock) (handles : t.handles = s.handles) : rel r xs t := by
  have back := h.aside stock handles
  simpa using h.append rest back

/-! ## Steps -/

section Code
variable {script : Option Script}
  (runs : ∀ body, script = some body → ∀ frame session,
    rel session (body.steps frame session) (body.run frame session).session)
include runs

theorem runEntry (session : Session) (entry : EntryPoint) (frame : Frame) :
    rel session (session.entrySteps entry (script.map Script.steps) frame)
      (session.runEntry entry (script.map Script.run) frame).session := by
  cases entry with
  | code body => exact h.aside rfl rfl
  | helper => exact h.aside rfl rfl
  | scripted =>
    cases script with
    | none => exact h.aside rfl rfl
    | some body => exact runs body rfl frame session

theorem called (session : Session) (module : TestModule) (call : Call) :
    rel session (session.callSteps module call (script.map Script.steps))
      (session.called module call script) := by
  have body := h.runEntry runs (session.begun module call) (call.entry module)
    (call.start module session.rig).1
  have entered := h.after (r := session) (s := session.begun module call) rfl rfl body
  exact h.before entered (t := session.called module call script) rfl rfl

theorem direct (session : Session) (module : TestModule) :
    rel session
      ((script.map Script.steps).toList.flatMap fun lister =>
        lister ⟨module.file, none, none⟩ session)
      (session.direct module (script.map Script.run)).2 := by
  cases script with
  | none => exact h.aside rfl rfl
  | some body =>
    rw [Option.map_some, Option.toList_some, List.flatMap_singleton]
    exact runs body rfl _ session

/-- What the code does that a step runs. -/
theorem inner (session : Session) {step : Step} (code : step.runsCode = true) :
    rel session (session.innerSteps step (script.map Script.steps))
      (session.perform step (script.map Script.run)).2 := by
  have refused : rel session [] session := h.aside rfl rfl
  cases step with
  | probe handle args =>
    refine session.of_withIdle (rel session) refused (fun module => ?_) fun module free => ?_
    · cases args with
      | none => exact refused
      | some args =>
        rw [Option.toList_some, List.flatMap_singleton]
        exact h.called runs session module (.probe args)
    · cases args with
      | none => rfl
      | some args => cases free
  | hook handle role data options =>
    exact session.of_hook (rel session) refused handle role data options script fun module call =>
      h.called runs session module call
  | direct handle =>
    exact session.of_withModule (rel session) refused fun module => h.direct runs session module
  | _ => cases code

theorem perform (session : Session) (step : Step) :
    rel session (session.steps step script) (session.perform step (script.map Script.run)).2 := by
  cases code : step.runsCode with
  | true => exact h.around session _ code (h.inner runs session code)
  | false =>
    have nothing : session.innerSteps step (script.map Script.steps) = [] := by
      cases step <;> first | rfl | cases code
    rw [steps, nothing]
    exact h.plain session _ code

end Code

/-! ## Scripts and sessions -/

theorem script : ∀ (script : Script) (frame : Frame) (session : Session),
    rel session (script.steps frame session) (script.run frame session).session
  | .exit _, _, _ => h.aside rfl rfl
  | .call service next, frame, session =>
    h.after (s := { session with rig := (session.rig.serve frame service).2.2 }) rfl rfl
      (script (next _) _ _)
  | .note _ next, frame, session => script next frame session
  | .step taken next, frame, session => by
    have runs : ∀ other, (none : Option Script) = some other → ∀ frame session,
        rel session (other.steps frame session) (other.run frame session).session := nofun
    exact h.append (h.perform runs session taken) (script (next _) frame _)
  | .stepWith taken body next, frame, session => by
    have runs : ∀ other, some body = some other → ∀ frame session,
        rel session (other.steps frame session) (other.run frame session).session := by
      rintro _ ⟨⟩
      exact script body
    exact h.append (h.perform runs session taken) (script (next _) frame _)
  | .thread body next, frame, session => by
    have inner := h.after (r := session) (s := session.onThread) rfl rfl (script body frame _)
    have back := h.before inner
      (t := session.backFrom (body.run frame session.onThread).session) rfl rfl
    exact h.append back (script (next _) _ _)
  | .lookUp name next, frame, session => by
    have stock : (session.lookUp frame.given name).2.stock = session.stock := by
      cases name <;> rfl
    have handles : (session.lookUp frame.given name).2.handles = session.handles := by
      cases name <;> rfl
    exact h.after stock handles (script (next _) frame _)
  | .bindName name id next, frame, session =>
    h.after (s := session.bindName name id) rfl rfl (script next frame _)
  | .markReleased id next, frame, session =>
    h.after (s := session.markReleased id) rfl rfl (script next frame _)

theorem take (session : Session) (step : Step) (script : Option Script) :
    rel session (session.quiet.steps step script) (session.take step script).2 := by
  have runs : ∀ body, script = some body → ∀ frame session,
      rel session (body.steps frame session) (body.run frame session).session :=
    fun body _ => h.script body
  exact h.after (s := session.quiet) rfl rfl (h.perform runs session.quiet step)

theorem afterAll : ∀ (steps : List (Step × Option Script)) (session : Session),
    rel session (session.stepsAll steps) (session.afterAll steps)
  | [], _ => h.aside rfl rfl
  | (step, script) :: steps, session =>
    h.append (h.take session step script) (afterAll steps _)

end Session.Course

end HidRig
