import HidRig.Rig.Serve

/-! # What the services do

* `ServiceTable.Filled`: a table whose slots are all filled.
* `Rig.allocate_of_armed`, `Rig.release_of_tracked`, …: a service by the record that it finds.
* `Rig.arm_tables`, `Rig.disarm_of_armed`, …: the two ends of a call.
-/

namespace HidRig

/-- All slots of a table are filled. -/
structure ServiceTable.Filled (table : ServiceTable) : Prop where
  allocates : table.allocates = true
  releases : table.releases = true
  requests : table.requests = true

namespace ServiceTable

theorem filled_disarmed : disarmed.Filled := ⟨rfl, rfl, rfl⟩

theorem filled_armed : ∀ buffer, (armed buffer).Filled
  | none => ⟨rfl, rfl, rfl⟩
  | some _ => ⟨rfl, rfl, rfl⟩

theorem grants_of_data_none {table : ServiceTable} (h : table.data = none) (offset : UInt32)
    (size : UInt64) : table.grants offset size = none := by
  unfold grants
  split
  · exact h
  · rfl

/-- A length that is kept in 64 bits is no more than it was. -/
theorem toNat_dataLen_le (n : Nat) : (UInt64.ofNat n).toNat ≤ n := by
  rw [UInt64.toNat_ofNat']
  exact Nat.mod_le n _

end ServiceTable

/-- The warning about contexts that were not given back, if there are any. -/
def leakWarnings (leaked : Nat) : List Event :=
  if 0 < leaked then [.contextsLeaked leaked] else []

namespace Rig
variable {rig : Rig} {file : FileId} {armed : Armed}

/-! ## Contexts -/

/-- A context that is in memory has another address than the next one. -/
theorem ne_nextContext (rig : Rig) {id : ContextId} (live : (rig.contexts id).isSome) :
    id ≠ rig.nextContext := by
  rintro rfl
  rw [rig.nextContext_free] at live
  cases live

theorem newContext_of_ne (rig : Rig) (ctx : HookContext) {id : ContextId}
    (other : id ≠ rig.nextContext) : (rig.newContext ctx).2.contexts id = rig.contexts id :=
  if_neg other

/-- A context that is in memory stays as it is when another is made. -/
theorem newContext_of_live (rig : Rig) (ctx : HookContext) {id : ContextId}
    (live : (rig.contexts id).isSome) : (rig.newContext ctx).2.contexts id = rig.contexts id :=
  rig.newContext_of_ne ctx (rig.ne_nextContext live)

theorem allocate_of_idle (ht : (rig.tables file).Filled) (ha : rig.armed = none) (hid : UInt32) :
    rig.allocate file hid = (none, rig.report (.strayAllocation hid)) := by
  simp [allocate, ht.allocates, ha]

theorem allocate_of_armed (ht : (rig.tables file).Filled) (ha : rig.armed = some armed)
    (hid : UInt32) :
    rig.allocate file hid =
      (some rig.nextContext,
        { (rig.newContext (.allocated hid)).2 with
          armed := some { armed with tracked := armed.tracked ++ [rig.nextContext] } }) := by
  simp [allocate, ht.allocates, ha, newContext]

theorem release_of_idle (ht : (rig.tables file).Filled) (ha : rig.armed = none) (id : ContextId) :
    rig.release file (some id) = rig.report .strayRelease := by
  simp [release, ht.releases, ha]

theorem release_of_tracked (ht : (rig.tables file).Filled) (ha : rig.armed = some armed)
    {id : ContextId} (hid : id ∈ armed.tracked) :
    rig.release file (some id) =
      { rig with armed := some { armed with tracked := id.takeOff armed.tracked } }.setContext
        id none := by
  simp [release, ht.releases, ha, hid]

theorem release_of_stray (ht : (rig.tables file).Filled) (ha : rig.armed = some armed)
    {id : ContextId} (hid : id ∉ armed.tracked) :
    rig.release file (some id) = rig.report .strayRelease := by
  simp [release, ht.releases, ha, hid]

/-! ## Requests -/

section Requests
variable (ctx : ContextRef) (data : Option Bytes) (length : Nat) (reportType requestKind : Int32)

theorem request_of_idle (ht : (rig.tables file).Filled) (ha : rig.armed = none) :
    rig.request file ctx data length reportType requestKind =
      ((-Abi.eio, data), rig.report (.strayRequest reportType requestKind)) := by
  simp [request, ht.requests, ha]

/-- What a request answers during a call. -/
def answer (policy : RequestPolicy) (data : Option Bytes) (length : Nat) : Int32 × Option Bytes :=
  let (code, after) := policy.answer (requestBuffer data length)
  (code, data.map fun bytes => after ++ bytes.drop length)

theorem request_of_armed (ht : (rig.tables file).Filled) (ha : rig.armed = some armed) :
    rig.request file ctx data length reportType requestKind =
      (answer armed.policy data length,
        { rig with
          armed := some
            { armed with
              requests := armed.requests ++
                [⟨rig.trackedIndex armed ctx, reportType, requestKind,
                  requestBuffer data length⟩] } }) := by
  simp [request, answer, ht.requests, ha]

end Requests

/-! ## The ends of a call -/

theorem arm_tables (buffer : Option (BufferId × Nat)) (policy : RequestPolicy) :
    (rig.arm file buffer policy).tables =
      fun f => if f = file then .armed buffer else rig.tables f := by
  unfold arm
  split <;> rfl

section Arm
variable (buffer : Option (BufferId × Nat)) (policy : RequestPolicy)

theorem arm_table : (rig.arm file buffer policy).tables file = .armed buffer := by
  simp [arm_tables]

@[simp] theorem arm_armed : (rig.arm file buffer policy).armed = some (.start policy) := rfl

@[simp] theorem arm_contexts : (rig.arm file buffer policy).contexts = rig.contexts := by
  unfold arm
  split <;> rfl

@[simp] theorem arm_buffers : (rig.arm file buffer policy).buffers = rig.buffers := by
  unfold arm
  split <;> rfl

end Arm

theorem disarm_of_idle (ha : rig.armed = none) :
    rig.disarm file = (⟨[], 0⟩, rig.setTable file .disarmed) := by
  simp [disarm, setTable, ha]

theorem disarm_of_armed (ha : rig.armed = some armed) :
    rig.disarm file =
      (⟨armed.requests, armed.tracked.length⟩,
        ({ rig.setTable file .disarmed with armed := none }.freeContexts
          armed.tracked).reportAll (leakWarnings armed.tracked.length)) := by
  by_cases hleak : 0 < armed.tracked.length
  · simp [disarm, setTable, ha, hleak, leakWarnings, report, reportAll]
  · simp [disarm, setTable, ha, hleak, leakWarnings, reportAll, freeContexts]

theorem disarm_tables :
    (rig.disarm file).2.tables = fun f => if f = file then .disarmed else rig.tables f := by
  cases ha : rig.armed with
  | none => rw [disarm_of_idle ha]; rfl
  | some armed => rw [disarm_of_armed ha]; rfl

@[simp] theorem disarm_armed : (rig.disarm file).2.armed = none := by
  cases ha : rig.armed with
  | none => rw [disarm_of_idle ha]; exact ha
  | some armed => rw [disarm_of_armed ha]; rfl

end Rig

end HidRig
