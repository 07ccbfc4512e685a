import HidRig.Proofs.Session.Chronicle

/-! # Reachable sessions

The sessions in which something can happen: those between two steps, and those in the middle of a
step, while native code runs.

* `Session.Reachable`: such a session.
* `Session.Reachable.afterAll`: sessions stay reachable over steps.
-/

namespace HidRig

/-- A session that is reached from a start. A run is stopped at any point by the script that ends
there. -/
inductive Session.Reachable : Session → Prop where
  | start (system : SystemLoader) (allocator : Allocator) (disk : Disk Image)
      (configs : List SearchConfig) (env : String → Option Bytes) :
      Reachable (.startWith system allocator disk configs env)
  | take {session : Session} (before : Reachable session) (step : Step) (script : Option Script) :
      Reachable (session.take step script).2
  /-- The session in which the native code of a call starts. -/
  | begun {session : Session} (before : Reachable session) (module : TestModule) (call : Call) :
      Reachable (session.begun module call)
  | ran {session : Session} (before : Reachable session) (script : Script) (frame : Frame) :
      Reachable (script.run frame session).session
  /-- The session as a new thread sees it. -/
  | onThread {session : Session} (before : Reachable session) : Reachable session.onThread

theorem Session.Reachable.afterAll {session : Session} (h : session.Reachable)
    (steps : List (Step × Option Script)) : (session.afterAll steps).Reachable := by
  induction steps generalizing session with
  | nil => exact h
  | cons taken rest ih => exact ih (h.take taken.1 taken.2)

end HidRig
