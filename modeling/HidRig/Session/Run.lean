import HidRig.Session.Perform

/-! # Running sessions

* `Script.run`: a script in given surroundings.
* `Session.take`: a step with its script, and what was reported and printed meanwhile.
* `Session.takeAll`: the steps of a session in order.
-/

namespace HidRig

/-- Puts a line in front of the trace. -/
def Finish.after (line : Note) (finish : Finish) : Finish :=
  { finish with trace := line :: finish.trace }

/-- The session as another thread sees it: no call runs there. -/
def Session.onThread (session : Session) : Session :=
  { session with rig := { session.rig with armed := none } }

/-- The session after another thread has ended, as the thread that started it sees it. -/
def Session.backFrom (session other : Session) : Session :=
  { other with rig := { other.rig with armed := session.rig.armed } }

def Script.run : Script → Frame → Session → Finish
  | .exit code, frame, session => ⟨code, [], frame, session⟩
  | .call service next, frame, session =>
    let (reply, frame, rig) := session.rig.serve frame service
    (next reply).run frame { session with rig }
  | .note line next, frame, session => (next.run frame session).after line
  | .step taken next, frame, session =>
    let (outcome, session) := session.perform taken none
    (next outcome).run frame session
  | .stepWith taken body next, frame, session =>
    let (outcome, session) := session.perform taken (some body.run)
    (next outcome).run frame session
  | .thread body next, frame, session =>
    let finish := body.run frame session.onThread
    (next finish.trace).run finish.frame (session.backFrom finish.session)
  | .lookUp name next, frame, session =>
    let (found, session) := session.lookUp frame.given name
    (next found).run frame session
  | .bindName name id next, frame, session => next.run frame (session.bindName name id)
  | .markReleased id next, frame, session => next.run frame (session.markReleased id)

namespace Session

structure StepReport where
  /-- The answer, and the trace of the script. -/
  outcome : Outcome
  events : List Event
  output : String

/-- The session with nothing reported or printed. -/
def quiet (session : Session) : Session :=
  { session with rig := { session.rig with log := [], output := "" } }

def take (session : Session) (step : Step) (script : Option Script) : StepReport × Session :=
  let (outcome, session) := session.quiet.perform step (script.map Script.run)
  (⟨outcome, session.rig.log, session.rig.output⟩, session)

def takeAll (session : Session) : List (Step × Option Script) → List StepReport
  | [] => []
  | (step, script) :: steps =>
    let (report, session) := session.take step script
    report :: session.takeAll steps

end Session

end HidRig
