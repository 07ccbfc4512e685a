import HidRig.Bytes

/-! # Tables of kernel services

* `ServiceTable`: the services that a native module calls through: which slots are filled, and the
  attached buffer.
* `ServiceTable.initial`, `ServiceTable.disarmed`, `ServiceTable.armed`: the table of a fresh
  module, between calls, and during a call.
* `ServiceTable.grants`: whether a range of the buffer is handed out.
-/

namespace HidRig

structure BufferId where
  number : Nat
deriving DecidableEq, Repr, Hashable

/-- A table of kernel services. A filled slot holds the rig's own function for the service. -/
structure ServiceTable where
  allocates : Bool
  releases : Bool
  requests : Bool
  /-- The attached buffer, unless the pointer is null. -/
  data : Option BufferId
  dataLen : UInt64
deriving DecidableEq, Repr

namespace ServiceTable

/-- The table with all bytes zero, which a module starts with. -/
def initial : ServiceTable :=
  ⟨false, false, false, none, 0⟩

/-- A table without functions over a buffer. -/
def bare (data : Option BufferId) (dataLen : UInt64) : ServiceTable :=
  { initial with data, dataLen }

def disarmed : ServiceTable :=
  ⟨true, true, true, none, 0⟩

/-- All services over the buffer of a call. -/
def armed (buffer : Option (BufferId × Nat)) : ServiceTable :=
  match buffer with
  | none => disarmed
  | some (id, n) => { disarmed with data := some id, dataLen := UInt64.ofNat n }

def hasData (table : ServiceTable) : Bool :=
  table.data.isSome && table.dataLen != 0

/-- Whether the slots are filled, in the order of the table. -/
def slots (table : ServiceTable) : List Bool :=
  [table.allocates, table.releases, table.requests]

/-- The buffer, if `size` bytes from `offset` on are handed out: the end of the range, as a 64-bit
sum, must not lie past the length. -/
def grants (table : ServiceTable) (offset : UInt32) (size : UInt64) : Option BufferId :=
  if offset.toUInt64 + size ≤ table.dataLen then table.data else none

end ServiceTable

end HidRig
