import HidRig.Rig.Bridge

/-! # Running native code

* `Frame`: where native code runs: in which file, on which context or argument.
* `Rig.serve`: the answer to one step, and the state after it.
* `Native.run`: a whole program.
-/

namespace HidRig

structure Frame where
  file : FileId
  given : ContextRef
  /-- The argument that a probe was given, as it is now. -/
  args : Option ProbeArgs

namespace Rig

def serve (rig : Rig) (frame : Frame) : (service : Service) → service.Reply × Frame × Rig
  | .getData offset size => (rig.getData frame.file offset size, frame, rig)
  | .read window size => (rig.readWindow window size, frame, rig)
  | .write window bytes => ((), frame, rig.writeWindow window bytes)
  | .allocate hid =>
    let (ctx, rig) := rig.allocate frame.file hid
    (ctx, frame, rig)
  | .release ctx => ((), frame, rig.release frame.file ctx)
  | .request ctx data length reportType requestKind =>
    let (answer, rig) := rig.request frame.file ctx data length reportType requestKind
    (answer, frame, rig)
  | .ownContext ctx =>
    let (id, rig) := rig.newContext ctx
    (id, frame, rig)
  | .given => (frame.given, frame, rig)
  | .readContext id => (rig.contexts id, frame, rig)
  | .writeContext id ctx => ((), frame, rig.setContext id ((rig.contexts id).map fun _ => ctx))
  | .readArgs => (frame.args, frame, rig)
  | .writeArgs args => ((), { frame with args := frame.args.map fun _ => args }, rig)
  | .print text => ((), frame, { rig with output := rig.output ++ text })

end Rig

namespace Native

variable {α : Type}

def run : Native α → Frame → Rig → α × Frame × Rig
  | done a, frame, rig => (a, frame, rig)
  | call service next, frame, rig =>
    let (reply, frame, rig) := rig.serve frame service
    (next reply).run frame rig

end Native

end HidRig
