import HidRig.Rig.State

/-! # The bridge between a module and the rig

The kernel services behind a module's table, and the table's life over a call.

* `Rig.allocate`, `Rig.release`, `Rig.request`: the services, as the module's own functions reach
  them. A service with an empty slot does nothing.
* `Rig.arm`: installs the table of a call and starts its record.
* `Rig.disarm`: detaches the buffer and ends the record, with contexts that were not given back.
-/

namespace HidRig.Rig

/-- The range of the attached buffer that a module's request for data yields. -/
def getData (rig : Rig) (file : FileId) (offset : UInt32) (size : UInt64) : Option Window :=
  ((rig.tables file).grants offset size).map fun buffer => ⟨buffer, offset.toNat⟩

def readWindow (rig : Rig) (window : Window) (size : Nat) : Bytes :=
  ((rig.buffers window.buffer).getD []).window window.start size

def writeWindow (rig : Rig) (window : Window) (bytes : Bytes) : Rig :=
  rig.setBuffer window.buffer
    ((rig.buffers window.buffer).map fun buffer => buffer.overwrite window.start bytes)

/-! ## Contexts -/

/-- Asks for a context. Outside of an invocation there is none. -/
def allocate (rig : Rig) (file : FileId) (hid : UInt32) : ContextRef × Rig :=
  if (rig.tables file).allocates then
    match rig.armed with
    | none => (none, rig.report (.strayAllocation hid))
    | some armed =>
      let (id, rig) := rig.newContext (.allocated hid)
      (some id, { rig with armed := some { armed with tracked := armed.tracked ++ [id] } })
  else (none, rig)

/-- Gives a context back. One that is not on the list stays as it is. -/
def release (rig : Rig) (file : FileId) : ContextRef → Rig
  | none => rig
  | some id =>
    if (rig.tables file).releases then
      match rig.armed with
      | some armed =>
        if id ∈ armed.tracked then
          { rig with armed := some { armed with tracked := id.takeOff armed.tracked } }.setContext
            id none
        else rig.report .strayRelease
      | none => rig.report .strayRelease
    else rig

/-! ## Requests -/

/-- The bytes of a request: the first `length` of the data, none at a null pointer. -/
def requestBuffer (data : Option Bytes) (length : Nat) : Bytes :=
  (data.getD []).take length

/-- The index of a context that is on the list of an invocation. -/
def trackedIndex (rig : Rig) (armed : Armed) (ctx : ContextRef) : Option UInt32 :=
  match ctx with
  | none => none
  | some id => if id ∈ armed.tracked then (rig.contexts id).map HookContext.index else none

/-- Makes a request. It is recorded as it came, and answered as the invocation was told to; outside
of an invocation it fails. -/
def request (rig : Rig) (file : FileId) (ctx : ContextRef) (data : Option Bytes) (length : Nat)
    (reportType requestKind : Int32) : (Int32 × Option Bytes) × Rig :=
  if (rig.tables file).requests then
    match rig.armed with
    | none => ((-Abi.eio, data), rig.report (.strayRequest reportType requestKind))
    | some armed =>
      let buffer := requestBuffer data length
      let (code, after) := armed.policy.answer buffer
      let record : RequestRecord := ⟨rig.trackedIndex armed ctx, reportType, requestKind, buffer⟩
      ((code, data.map fun bytes => after ++ bytes.drop length),
        { rig with armed := some { armed with requests := armed.requests ++ [record] } })
  else ((-Abi.eio, data), rig)

/-! ## Calls -/

/-- Installs the table of a call over a buffer, and starts its record in place of any other. -/
def arm (rig : Rig) (file : FileId) (buffer : Option (BufferId × Nat)) (policy : RequestPolicy) :
    Rig :=
  let rig := if rig.armed.isSome then rig.report .bridgeReplaced else rig
  { rig with armed := some (.start policy) }.setTable file (.armed buffer)

structure CallReport where
  requests : List RequestRecord
  leaked : Nat
deriving DecidableEq, Repr

/-- Ends a call: the table holds no buffer any more, and contexts that were not given back are
freed. Without a record there is nothing to report. -/
def disarm (rig : Rig) (file : FileId) : CallReport × Rig :=
  let rig := rig.setTable file .disarmed
  match rig.armed with
  | none => (⟨[], 0⟩, rig)
  | some armed =>
    let rig := { rig with armed := none }.freeContexts armed.tracked
    let leaked := armed.tracked.length
    (⟨armed.requests, leaked⟩, if 0 < leaked then rig.report (.contextsLeaked leaked) else rig)

end HidRig.Rig
