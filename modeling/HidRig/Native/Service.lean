import HidRig.Abi.ProbeArgs
import HidRig.Abi.ServiceTable
import HidRig.Native.Heap

/-! # What native code does

Native code is a program over the services that it can reach: the kernel services of its table, the
memory that it may touch, and its output.

* `Service`: one such step, with the type of its answer in `Service.Reply`.
* `Native`: programs that end with a value, whatever the answers are. They form a monad.
-/

namespace HidRig

/-- A place in an attached buffer, as a pointer to it. -/
structure Window where
  buffer : BufferId
  start : Nat
deriving DecidableEq, Repr

inductive Service where
  | getData (offset : UInt32) (size : UInt64)
  | read (window : Window) (size : Nat)
  | write (window : Window) (bytes : Bytes)
  | allocate (hid : UInt32)
  | release (ctx : ContextRef)
  /-- Makes a request of the device, over the first `length` bytes of some data. -/
  | request (ctx : ContextRef) (data : Option Bytes) (length : Nat) (reportType requestKind : Int32)
  | ownContext (ctx : HookContext)
  /-- Looks up the context that the running hook was given. -/
  | given
  | readContext (id : ContextId)
  | writeContext (id : ContextId) (ctx : HookContext)
  | readArgs
  | writeArgs (args : ProbeArgs)
  | print (text : String)

/-- The answer to a step. A request answers a code and the data as they are afterwards. -/
def Service.Reply : Service → Type
  | getData .. => Option Window
  | read .. => Bytes
  | write .. => Unit
  | allocate _ => ContextRef
  | release _ => Unit
  | request .. => Int32 × Option Bytes
  | ownContext _ => ContextId
  | given => ContextRef
  | readContext _ => Option HookContext
  | writeContext .. => Unit
  | readArgs => Option ProbeArgs
  | writeArgs _ => Unit
  | print _ => Unit

inductive Native (α : Type) where
  | done (a : α)
  | call (service : Service) (next : service.Reply → Native α)

namespace Native

variable {α β : Type}

def bind : Native α → (α → Native β) → Native β
  | done a, k => k a
  | call service next, k => call service fun reply => (next reply).bind k

instance : Monad Native where
  pure := done
  bind := bind

def ask (service : Service) : Native service.Reply :=
  call service done

/-- The attached bytes from `offset` on, unless the range is refused. -/
def getData (offset : UInt32) (size : UInt64) : Native (Option Window) :=
  ask (.getData offset size)

/-- Reads bytes from the `index`-th byte of a window on. -/
def read (window : Window) (index size : Nat) : Native Bytes :=
  ask (.read { window with start := window.start + index } size)

/-- Writes bytes from the `index`-th byte of a window on. -/
def write (window : Window) (index : Nat) (bytes : Bytes) : Native Unit :=
  ask (.write { window with start := window.start + index } bytes)

def allocate (hid : UInt32) : Native ContextRef :=
  ask (.allocate hid)

def release (ctx : ContextRef) : Native Unit :=
  ask (.release ctx)

/-- Makes a request over all of some data. -/
def request (ctx : ContextRef) (data : Bytes) (reportType : ReportType) (kind : RequestKind) :
    Native (Int32 × Bytes) := do
  let (code, after) ← ask (.request ctx (some data) data.length reportType.raw kind.raw)
  pure (code, after.getD [])

def context : Native HookContext := do
  match ← ask .given with
  | none => pure .empty
  | some id => pure ((← ask (.readContext id)).getD .empty)

def setContext (ctx : HookContext) : Native Unit := do
  match ← ask .given with
  | none => pure ()
  | some id => ask (.writeContext id ctx)

def editArgs (edit : ProbeArgs → ProbeArgs) : Native Unit := do
  match ← ask .readArgs with
  | none => pure ()
  | some args => ask (.writeArgs (edit args))

def printLine (text : String) : Native Unit :=
  ask (.print (text ++ "\n"))

end Native

end HidRig
