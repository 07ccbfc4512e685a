import HidRig.Session.State

/-! # Scripts

A script is native code that also leaves a trace, takes steps of its session, and runs code on other
threads.

* `Script`: such programs.
* `Script.getData`, `Script.allocate`, …: the operations that scripts are made of. Each leaves one
  line in the trace and goes on.
-/

namespace HidRig

/-- Native code that takes part in a session. -/
inductive Script where
  | exit (code : Int32)
  | call (service : Service) (next : service.Reply → Script)
  | note (line : Note) (next : Script)
  /-- Takes a step of the session without a script. -/
  | step (step : Step) (next : Outcome → Script)
  /-- Takes a step of the session, with a script for the module that it calls. -/
  | stepWith (step : Step) (body : Script) (next : Outcome → Script)
  /-- Runs a script on a thread of its own, and goes on by its trace. -/
  | thread (body : Script) (next : List Note → Script)
  | lookUp (name : ContextName) (next : Option FoundContext → Script)
  | bindName (name : String) (id : ContextId) (next : Script)
  | markReleased (id : ContextId) (next : Script)

namespace Script

def idle : Script := .exit 0

/-! ## Data -/

/-- The greatest size of a range whose bytes are shown. -/
def shownLimit : UInt64 := 0x100000

def display (window : Window) (size : UInt64) (next : Script) : Script :=
  .call (.read window size.toNat) fun bytes => .note (.bytes bytes) next

/-- Asks for data, and goes on with a window that is not too large. -/
def withData (offset : UInt32) (size : UInt64) (body : Window → Script) (next : Script) : Script :=
  .call (.getData offset size) fun
    | none => .note .null next
    | some window => if shownLimit < size then .note .wrapped next else body window

def getData (offset : UInt32) (size : UInt64) (next : Script) : Script :=
  withData offset size (fun window => display window size next) next

/-- Asks for data, writes as many of the bytes as fit, and shows the data. -/
def write (offset : UInt32) (size : UInt64) (bytes : Bytes) (next : Script) : Script :=
  withData offset size
    (fun window => .call (.write window (bytes.take size.toNat)) fun _ => display window size next)
    next

/-! ## Contexts -/

/-- Asks for a context, names it and shows it. -/
def allocate (hid : UInt32) (name : String) (next : Script) : Script :=
  .call (.allocate hid) fun
    | none => .note .null next
    | some id =>
      .bindName name id (.call (.readContext id) fun ctx => .note (.context (ctx.getD .empty)) next)

/-- Goes on with the context of a name, if there is one. -/
def withContext (name : ContextName) (body : FoundContext → Script) (next : Script) : Script :=
  .lookUp name fun
    | none => .note (.noContext name.text) next
    | some found => body found

def release (name : ContextName) (next : Script) : Script :=
  withContext name
    (fun found =>
      .call (.release found.ref) fun _ =>
        match found.ref with
        | none => .note .done next
        | some id => .markReleased id (.note .done next))
    next

def editContext (name : ContextName) (edit : HookContext → HookContext) (next : Script) : Script :=
  withContext name
    (fun
      | ⟨some id, true⟩ =>
        .call (.readContext id) fun ctx =>
          let edited := edit (ctx.getD .empty)
          .call (.writeContext id edited) fun _ => .note (.context edited) next
      | _ => .note (.stale name.text) next)
    next

/-! ## Requests, probes, steps and threads -/

/-- Makes a request over the first `length` bytes of some data. -/
def request (name : ContextName) (data : Option Bytes) (length : Nat)
    (reportType requestKind : Int32) (next : Script) : Script :=
  withContext name
    (fun found =>
      .call (.request found.ref data length reportType requestKind) fun reply =>
        .note (.request reply.1 reply.2) next)
    next

/-- Changes the argument of the probe, and shows it. -/
def editArgs (edit : ProbeArgs → ProbeArgs) (next : Script) : Script :=
  .call .readArgs fun
    | none => .note .null next
    | some args => .call (.writeArgs (edit args)) fun _ => .note (.args (edit args)) next

/-- Takes a step of the session, and shows its outcome. -/
def nested (taken : Step) (body : Option Script) (next : Script) : Script :=
  match body with
  | none => .step taken fun outcome => .note outcome.note next
  | some body => .stepWith taken body fun outcome => .note outcome.note next

/-- Runs a script on a thread of its own, and shows its trace. -/
def onThread (body : Script) (next : Script) : Script :=
  .thread body fun trace => .note (.thread trace) next

/-- The operations of a list one after another, up to the end of the list. -/
def ofList (operations : List (Script → Script)) : Script :=
  operations.foldr (fun operation next => operation next) idle

end Script

end HidRig
