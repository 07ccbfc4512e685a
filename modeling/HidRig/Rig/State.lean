import HidRig.Event
import HidRig.Native.Service

/-! # The state of the rig

* `RequestPolicy`: how requests of the device are answered.
* `RequestRecord`: a request that was made.
* `ContextId.takeOff`: a list of contexts without one of them.
* `Armed`: what is kept on a thread for the invocation that runs on it.
* `Rig`: the tables of all native files, the memory that native code may touch, and what has been
  reported and printed.
-/

namespace HidRig

structure RequestPolicy where
  result : Int32 := 0
  /-- The bytes that are copied into the buffer, whose number is the code. -/
  reply : Option Bytes := none
deriving DecidableEq, Repr, Inhabited

/-- The code of an answer, and the buffer after it. -/
def RequestPolicy.answer (policy : RequestPolicy) (buffer : Bytes) : Int32 × Bytes :=
  match policy.reply with
  | none => (policy.result, buffer)
  | some reply =>
    let n := min reply.length buffer.length
    (Int32.ofNat (min n Abi.maxSigned), reply.take n ++ buffer.drop n)

structure RequestRecord where
  /-- The index of the context, if it is on the list of the invocation. -/
  hid : Option UInt32
  rawType : Int32
  rawKind : Int32
  data : Bytes
deriving DecidableEq, Repr

/-- The report type of a request, if its number is one. -/
def RequestRecord.reportType? (record : RequestRecord) : Option ReportType :=
  ReportType.ofRaw? record.rawType

/-- The kind of a request, if its number is one. -/
def RequestRecord.kind? (record : RequestRecord) : Option RequestKind :=
  RequestKind.ofRaw? record.rawKind

/-- Takes a context off a list. The last of the list moves into its place. -/
def ContextId.takeOff (id : ContextId) : List ContextId → List ContextId
  | [] => []
  | other :: rest =>
    if other = id then rest.getLast?.toList ++ rest.dropLast else other :: id.takeOff rest

/-- The order apart, a context is taken off as it is erased. -/
theorem ContextId.takeOff_perm (id : ContextId) : ∀ ids, (id.takeOff ids).Perm (ids.erase id)
  | [] => .nil
  | other :: rest => by
    by_cases h : other = id
    · subst h
      rw [takeOff, if_pos rfl, List.erase_cons_head]
      cases hlast : rest.getLast? with
      | none => rw [List.getLast?_eq_none_iff.mp hlast]; exact .nil
      | some last =>
        obtain ⟨front, rfl⟩ := List.getLast?_eq_some_iff.mp hlast
        rw [List.dropLast_concat]
        exact List.perm_append_comm
    · rw [takeOff, if_neg h, List.erase_cons_tail (by simpa using h)]
      exact (takeOff_perm id rest).cons other

/-- The record of the invocation that runs on a thread. -/
structure Armed where
  /-- The contexts asked for and not given back. -/
  tracked : List ContextId
  requests : List RequestRecord
  policy : RequestPolicy
deriving DecidableEq, Repr

/-- The record at the start of an invocation. -/
def Armed.start (policy : RequestPolicy) : Armed := ⟨[], [], policy⟩

/-- The state that native code and the rig share. -/
structure Rig where
  tables : FileId → ServiceTable
  armed : Option Armed
  contexts : Heap
  allocator : Allocator
  /-- How many contexts were made. -/
  contextCount : Nat
  buffers : BufferId → Option Bytes
  bufferCount : Nat
  log : List Event
  output : String

namespace Rig

/-- The rig on a system with the given allocator, before anything is done. -/
def initial (allocator : Allocator) : Rig where
  tables := fun _ => .initial
  armed := none
  contexts := .empty
  allocator := allocator
  contextCount := 0
  buffers := fun _ => none
  bufferCount := 0
  log := []
  output := ""

def report (rig : Rig) (event : Event) : Rig :=
  { rig with log := rig.log ++ [event] }

def reportAll (rig : Rig) (events : List Event) : Rig :=
  { rig with log := rig.log ++ events }

def setTable (rig : Rig) (file : FileId) (table : ServiceTable) : Rig :=
  { rig with tables := fun f => if f = file then table else rig.tables f }

def setContext (rig : Rig) (id : ContextId) (ctx? : Option HookContext) : Rig :=
  { rig with contexts := rig.contexts.set id ctx? }

def freeContexts (rig : Rig) (ids : List ContextId) : Rig :=
  { rig with contexts := rig.contexts.free ids }

def setBuffer (rig : Rig) (id : BufferId) (bytes? : Option Bytes) : Rig :=
  { rig with buffers := fun i => if i = id then bytes? else rig.buffers i }

/-- The address of the next context. -/
def nextContext (rig : Rig) : ContextId :=
  rig.allocator.pick rig.contextCount rig.contexts

theorem nextContext_free (rig : Rig) : rig.contexts rig.nextContext = none :=
  rig.allocator.fresh rig.contextCount rig.contexts

def newContext (rig : Rig) (ctx : HookContext) : ContextId × Rig :=
  (rig.nextContext,
    { rig with contextCount := rig.contextCount + 1 }.setContext rig.nextContext (some ctx))

/-- Makes a buffer with an identity of its own. -/
def newBuffer (rig : Rig) (bytes : Bytes) : BufferId × Rig :=
  (⟨rig.bufferCount⟩,
    { rig with bufferCount := rig.bufferCount + 1 }.setBuffer ⟨rig.bufferCount⟩ (some bytes))

/-- A table without functions, over a buffer of its own if data are given. -/
def bareTable (rig : Rig) : (data : Option Bytes) → ServiceTable × Rig
  | none => (.bare none 0, rig)
  | some bytes =>
    let (id, rig) := rig.newBuffer bytes
    (.bare (some id) (UInt64.ofNat bytes.length), rig)

end Rig

end HidRig
