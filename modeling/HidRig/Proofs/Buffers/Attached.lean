import HidRig.Proofs.Rig.Change
import HidRig.Proofs.Session.Reachable

/-! # Attached buffers

The buffers that tables point at, over everything that can happen in a session. A buffer is made for
one table, keeps its length as long as it is in memory, and is gone only when its call is over, and
the table with it.

* `Service.rewrite`: what a step of native code does to the bytes of a buffer.
* `Rig.Later`: what a state has from an earlier one, by `Chronicle.later`.
* `Rig.Attached`: every table points at a buffer that is there for it alone.
* `Session.Reachable.attached`: so it is in every reachable session.
-/

namespace HidRig

/-! ## Steps of native code -/

/-- What a step does to the bytes of a buffer. -/
def Service.rewrite (id : BufferId) (service : Service) (content : Bytes) : Bytes :=
  match service with
  | .write window bytes =>
    if window.buffer = id then content.overwrite window.start bytes else content
  | _ => content

@[simp] theorem Service.length_rewrite (id : BufferId) (service : Service) (content : Bytes) :
    (service.rewrite id content).length = content.length := by
  unfold rewrite
  split
  · split
    · exact Bytes.length_overwrite ..
    · rfl
  · rfl

namespace Rig

theorem Change.bufferCount {r s : Rig} (h : r.Change s) : s.bufferCount = r.bufferCount := by
  induction h with
  | trans _ _ ihFirst ihSecond => rw [ihSecond, ihFirst]
  | _ => rfl

section Serve
variable (rig : Rig)

theorem allocate_buffers (file : FileId) (hid : UInt32) :
    (rig.allocate file hid).2.buffers = rig.buffers := by
  unfold allocate
  split
  · split <;> rfl
  · rfl

theorem release_buffers (file : FileId) : ∀ ctx, (rig.release file ctx).buffers = rig.buffers
  | none => rfl
  | some id => by
    unfold release
    dsimp only
    split
    · split
      · split <;> rfl
      · rfl
    · rfl

theorem request_buffers (file : FileId) (ctx : ContextRef) (data : Option Bytes) (length : Nat)
    (reportType requestKind : Int32) :
    (rig.request file ctx data length reportType requestKind).2.buffers = rig.buffers := by
  unfold request
  split
  · split <;> rfl
  · rfl

theorem writeWindow_buffers (window : Window) (bytes : Bytes) (id : BufferId) :
    (rig.writeWindow window bytes).buffers id =
      (rig.buffers id).map ((Service.write window bytes).rewrite id) := by
  by_cases h : window.buffer = id
  · subst h
    have writes : (Service.write window bytes).rewrite window.buffer =
        fun content => content.overwrite window.start bytes := funext fun _ => if_pos rfl
    simp [writeWindow, setBuffer, writes]
  · have keeps : (Service.write window bytes).rewrite id = fun content => content :=
      funext fun _ => if_neg h
    simp [writeWindow, setBuffer, Ne.symm h, keeps]

theorem serve_buffers (frame : Frame) (service : Service) (id : BufferId) :
    (rig.serve frame service).2.2.buffers id = (rig.buffers id).map (service.rewrite id) := by
  have same : (rig.buffers id).map (fun content => content) = rig.buffers id := Option.map_id'
  cases service with
  | write window bytes => exact rig.writeWindow_buffers window bytes id
  | allocate hid => exact (congrFun (rig.allocate_buffers frame.file hid) id).trans same.symm
  | release ctx => exact (congrFun (rig.release_buffers frame.file ctx) id).trans same.symm
  | request ctx data length reportType requestKind =>
    exact (congrFun (rig.request_buffers frame.file ctx data length reportType requestKind)
      id).trans same.symm
  | _ => exact same.symm

theorem serve_buffers_length (frame : Frame) (service : Service) (id : BufferId) :
    ((rig.serve frame service).2.2.buffers id).map List.length =
      (rig.buffers id).map List.length := by
  rw [serve_buffers, Option.map_map]
  exact congrArg (Option.map · _) (funext fun content => service.length_rewrite id content)

@[simp] theorem serve_bufferCount (frame : Frame) (service : Service) :
    (rig.serve frame service).2.2.bufferCount = rig.bufferCount :=
  (rig.change_serve frame service).bufferCount

end Serve

/-! ## Calls -/

section Ends
variable {rig : Rig} {file : FileId}

@[simp] theorem arm_bufferCount (buffer : Option (BufferId × Nat)) (policy : RequestPolicy) :
    (rig.arm file buffer policy).bufferCount = rig.bufferCount := by
  unfold arm
  split <;> rfl

@[simp] theorem disarm_buffers : (rig.disarm file).2.buffers = rig.buffers := by
  cases ha : rig.armed with
  | none => rw [disarm_of_idle ha]; rfl
  | some armed => rw [disarm_of_armed ha]; rfl

@[simp] theorem disarm_bufferCount : (rig.disarm file).2.bufferCount = rig.bufferCount := by
  cases ha : rig.armed with
  | none => rw [disarm_of_idle ha]; rfl
  | some armed => rw [disarm_of_armed ha]; rfl

end Ends

end Rig

namespace Call
variable (module : TestModule) (before rig : Rig) (call : Call)

/-- The bytes that a call starts its buffer with. -/
def content : Call → Option Bytes
  | probe _ => none
  | hook _ payload _ _ => payload.map Payload.buffer

theorem buffer_eq :
    call.buffer rig = call.content.map fun bytes => (⟨rig.bufferCount⟩, bytes.length) := by
  cases call with
  | probe args => rfl
  | hook role payload entry options => cases payload <;> rfl

theorem start_buffers (id : BufferId) :
    (call.start module rig).2.buffers id =
      if id = ⟨rig.bufferCount⟩ then call.content.or (rig.buffers id) else rig.buffers id := by
  cases call with
  | probe args => simp [start, ProbeCall.start, content]
  | hook role payload entry options =>
    cases payload with
    | none => simp [start, HookCall.start, Rig.newContext, Rig.setContext, content]
    | some payload =>
      by_cases h : id = ⟨rig.bufferCount⟩ <;>
        simp [start, HookCall.start, Rig.newContext, Rig.setContext, Rig.newBuffer, Rig.setBuffer,
          content, h]

theorem start_bufferCount :
    (call.start module rig).2.bufferCount =
      rig.bufferCount + (if call.content.isSome then 1 else 0) := by
  cases call with
  | probe args => simp [start, ProbeCall.start, content]
  | hook role payload entry options =>
    cases payload <;>
      simp [start, HookCall.start, Rig.newContext, Rig.setContext, Rig.newBuffer, Rig.setBuffer,
        content]

variable (code : Int32) (frame : Frame)

theorem finish_buffers (id : BufferId) :
    (call.finish module before code frame rig).buffers id =
      if id = ⟨before.bufferCount⟩ ∧ call.content.isSome then none else rig.buffers id := by
  cases call with
  | probe args => simp [finish, ProbeCall.finish, Rig.report, content]
  | hook role payload entry options =>
    cases payload with
    | none =>
      simp [finish, HookCall.finish, HookCall.start, Rig.report, Rig.setContext, content]
    | some payload =>
      simp [finish, HookCall.finish, HookCall.start, Rig.report, Rig.setContext, Rig.setBuffer,
        Rig.newBuffer, Rig.newContext, content]

theorem finish_bufferCount :
    (call.finish module before code frame rig).bufferCount = rig.bufferCount := by
  cases call with
  | probe args => simp [finish, ProbeCall.finish, Rig.report]
  | hook role payload entry options =>
    cases payload <;>
      simp [finish, HookCall.finish, HookCall.start, Rig.report, Rig.setContext, Rig.setBuffer]

end Call

/-! ## Later states -/

/-- What a state has from an earlier one: its buffers are as long as they were, and a table that
points at another buffer than before points at one that was made since. -/
structure Rig.Later (r s : Rig) : Prop where
  bufferCount_le : r.bufferCount ≤ s.bufferCount
  lengths : ∀ id : BufferId, id.number < r.bufferCount →
    (s.buffers id).map List.length = (r.buffers id).map List.length
  data : ∀ file id, (s.tables file).data = some id →
    (r.tables file).data = some id ∨ r.bufferCount ≤ id.number

namespace Rig.Later
variable {r s t : Rig}

theorem trans (h : r.Later s) (k : s.Later t) : r.Later t where
  bufferCount_le := Nat.le_trans h.bufferCount_le k.bufferCount_le
  lengths id hid := by
    rw [k.lengths id (Nat.lt_of_lt_of_le hid h.bufferCount_le), h.lengths id hid]
  data file id hid := by
    rcases k.data file id hid with old | new
    · exact h.data file id old
    · exact .inr (Nat.le_trans h.bufferCount_le new)

theorem aside (h : r.Aside s) : r.Later s where
  bufferCount_le := Nat.le_of_eq h.bufferCount.symm
  lengths id _ := by rw [h.buffers]
  data file id hid := by
    rw [h.tables] at hid
    exact .inl hid

theorem serve (r : Rig) (frame : Frame) (service : Service) :
    r.Later (r.serve frame service).2.2 where
  bufferCount_le := Nat.le_of_eq (r.serve_bufferCount frame service).symm
  lengths id _ := r.serve_buffers_length frame service id
  data file id hid := by
    rw [Rig.serve_tables] at hid
    exact .inl hid

theorem installs {place : FileId} {table : ServiceTable} (h : r.Installs place table s) :
    r.Later s where
  bufferCount_le := h.bufferCount_le
  lengths id hid := by rw [h.buffers_old id hid]
  data file id hid := by
    rw [h.tables] at hid
    dsimp only at hid
    by_cases hf : file = place
    · rw [if_pos hf] at hid
      exact .inr (h.data id hid).1
    · rw [if_neg hf] at hid
      exact .inl hid

/-- Another thread keeps a record of its own, and shares the rest. -/
theorem threaded {armed : Option Armed} (h : { r with armed := none }.Later s) :
    r.Later { s with armed := armed } :=
  ⟨h.bufferCount_le, h.lengths, h.data⟩

theorem start (module : TestModule) (r : Rig) (call : Call) :
    r.Later (call.start module r).2 where
  bufferCount_le := by
    rw [call.start_bufferCount]
    exact Nat.le_add_right _ _
  lengths id hid := by
    have hne : id ≠ ⟨r.bufferCount⟩ := fun h => Nat.ne_of_lt hid (congrArg BufferId.number h)
    rw [call.start_buffers, if_neg hne]
  data file id hid := by
    rw [call.start_tables, call.buffer_eq] at hid
    dsimp only at hid
    by_cases hf : file = module.file
    · rw [if_pos hf] at hid
      cases hc : call.content with
      | none => simp [hc, ServiceTable.armed, ServiceTable.disarmed] at hid
      | some bytes =>
        obtain rfl : ⟨r.bufferCount⟩ = id := by simpa [hc, ServiceTable.armed] using hid
        exact .inr (Nat.le_refl _)
    · rw [if_neg hf] at hid
      exact .inl hid

/-- The end of a call that began in `r`. -/
theorem finish (h : r.Later s) (module : TestModule) (call : Call) (code : Int32) (frame : Frame) :
    r.Later (call.finish module r code frame s) where
  bufferCount_le := by
    rw [call.finish_bufferCount]
    exact h.bufferCount_le
  lengths id hid := by
    have hne : id ≠ ⟨r.bufferCount⟩ := fun h => Nat.ne_of_lt hid (congrArg BufferId.number h)
    rw [call.finish_buffers, if_neg (fun own => hne own.1), h.lengths id hid]
  data file id hid := by
    rw [call.finish_tables] at hid
    dsimp only at hid
    by_cases hf : file = module.file
    · simp [hf, ServiceTable.disarmed] at hid
    · rw [if_neg hf] at hid
      exact h.data file id hid

end Rig.Later

theorem Chronicle.later {file : FileId} {r t : Rig} {acts : List Act}
    (h : Chronicle file r acts t) : r.Later t := by
  induction h with
  | done aside => exact .aside aside
  | served aside frame service _ _ ih =>
    exact (Rig.Later.aside aside).trans ((Rig.Later.serve _ frame service).trans ih)
  | installed aside _ _ installs _ ih =>
    exact (Rig.Later.aside aside).trans ((Rig.Later.installs installs).trans ih)
  | called aside module call code frame _ _ ihBody ih =>
    have body := (Rig.Later.start module _ call).trans ihBody
    exact (Rig.Later.aside aside).trans ((body.finish module call code frame).trans ih)
  | ran aside _ _ ihBody ih => exact (Rig.Later.aside aside).trans (ihBody.trans ih)
  | threaded aside _ _ ihBody ih =>
    exact (Rig.Later.aside aside).trans (ihBody.threaded.trans ih)

/-! ## Attached buffers -/

/-- A table that points at a buffer points at one that is in memory, at least as long as the table
says, and no other file's. -/
structure Rig.Attached (rig : Rig) : Prop where
  held : ∀ file id, (rig.tables file).data = some id →
    ∃ bytes, rig.buffers id = some bytes ∧ (rig.tables file).dataLen.toNat ≤ bytes.length
  apart : ∀ file other id, (rig.tables file).data = some id → (rig.tables other).data = some id →
    file = other
  counted : ∀ id : BufferId, rig.bufferCount ≤ id.number → rig.buffers id = none

namespace Rig.Attached
variable {r s : Rig}

theorem lt_bufferCount (h : r.Attached) {file : FileId} {id : BufferId}
    (hid : (r.tables file).data = some id) : id.number < r.bufferCount := by
  obtain ⟨bytes, there, -⟩ := h.held file id hid
  refine Nat.lt_of_not_le fun hle => ?_
  rw [h.counted id hle] at there
  cases there

/-- Changes to the bytes of buffers are of no account. -/
theorem lengths (h : r.Attached) (tables : s.tables = r.tables)
    (bufferCount : s.bufferCount = r.bufferCount)
    (same : ∀ id, (s.buffers id).map List.length = (r.buffers id).map List.length) :
    s.Attached where
  held file id hid := by
    rw [tables] at hid ⊢
    obtain ⟨bytes, there, long⟩ := h.held file id hid
    have hlen := same id
    rw [there] at hlen
    obtain ⟨after, hafter, hsame⟩ := Option.map_eq_some_iff.mp hlen
    exact ⟨after, hafter, hsame ▸ long⟩
  apart := by
    rw [tables]
    exact h.apart
  counted id hid := by
    rw [bufferCount] at hid
    have hlen := same id
    rw [h.counted id hid] at hlen
    exact Option.map_eq_none_iff.mp hlen

/-- A table takes the place of that of a file. It points at nothing that another file's does. -/
theorem replace (h : r.Attached) {file : FileId} {table : ServiceTable}
    (tables : s.tables = fun f => if f = file then table else r.tables f)
    (others : ∀ other id, other ≠ file → (r.tables other).data = some id →
      s.buffers id = r.buffers id ∧ table.data ≠ some id)
    (held : ∀ id, table.data = some id →
      ∃ bytes, s.buffers id = some bytes ∧ table.dataLen.toNat ≤ bytes.length)
    (counted : ∀ id : BufferId, s.bufferCount ≤ id.number → s.buffers id = none) :
    s.Attached where
  held f id hid := by
    rw [tables] at hid ⊢
    dsimp only at hid ⊢
    by_cases hf : f = file
    · rw [if_pos hf] at hid ⊢
      exact held id hid
    · rw [if_neg hf] at hid ⊢
      rw [(others f id hf hid).1]
      exact h.held f id hid
  apart f g id hf hg := by
    rw [tables] at hf hg
    dsimp only at hf hg
    by_cases hff : f = file
    · by_cases hgf : g = file
      · rw [hff, hgf]
      · rw [if_pos hff] at hf
        rw [if_neg hgf] at hg
        exact absurd hf (others g id hgf hg).2
    · rw [if_neg hff] at hf
      by_cases hgf : g = file
      · rw [if_pos hgf] at hg
        exact absurd hg (others f id hff hf).2
      · rw [if_neg hgf] at hg
        exact h.apart f g id hf hg
  counted := counted

theorem aside (h : r.Attached) (ha : r.Aside s) : s.Attached :=
  h.lengths ha.tables ha.bufferCount fun id => by rw [ha.buffers]

theorem serve (h : r.Attached) (frame : Frame) (service : Service) :
    (r.serve frame service).2.2.Attached :=
  h.lengths (r.serve_tables frame service) (r.serve_bufferCount frame service)
    (r.serve_buffers_length frame service)

theorem installs (h : r.Attached) {place : FileId} {table : ServiceTable}
    (hi : r.Installs place table s) : s.Attached := by
  refine h.replace hi.tables ?_ (fun id hid => (hi.data id hid).2) ?_
  · intro other id _ hid
    have old := h.lt_bufferCount hid
    refine ⟨hi.buffers_old id old, fun hdata => ?_⟩
    exact absurd (hi.data id hdata).1 (Nat.not_le.mpr old)
  · intro id hid
    rw [hi.buffers_new id hid]
    exact h.counted id (Nat.le_trans hi.bufferCount_le hid)

theorem start (h : r.Attached) (module : TestModule) (call : Call) :
    (call.start module r).2.Attached := by
  refine h.replace (call.start_tables module r) ?_ ?_ ?_
  · intro other id _ hid
    have old := h.lt_bufferCount hid
    have hne : id ≠ ⟨r.bufferCount⟩ := fun heq => Nat.ne_of_lt old (congrArg BufferId.number heq)
    refine ⟨by rw [call.start_buffers, if_neg hne], fun hdata => ?_⟩
    rw [call.buffer_eq] at hdata
    cases hc : call.content with
    | none => simp [hc, ServiceTable.armed, ServiceTable.disarmed] at hdata
    | some bytes => exact hne (by simpa [hc, ServiceTable.armed] using hdata.symm)
  · intro id hid
    rw [call.buffer_eq] at hid ⊢
    cases hc : call.content with
    | none => simp [hc, ServiceTable.armed, ServiceTable.disarmed] at hid
    | some bytes =>
      obtain rfl : ⟨r.bufferCount⟩ = id := by simpa [hc, ServiceTable.armed] using hid
      refine ⟨bytes, by simp [call.start_buffers, hc], ?_⟩
      exact ServiceTable.toNat_dataLen_le bytes.length
  · intro id hid
    rw [call.start_bufferCount] at hid
    rw [call.start_buffers]
    split
    · next heq =>
      subst heq
      cases hc : call.content with
      | none => exact h.counted _ (Nat.le_refl _)
      | some bytes => exact absurd hid (by simp [hc])
    · exact h.counted id (Nat.le_trans (Nat.le_add_right _ _) hid)

/-- The end of a call that began in `r`, with all that happened since. -/
theorem finish (h : r.Attached) (hs : s.Attached) (module : TestModule) (call : Call)
    (later : (call.start module r).2.Later s) (code : Int32) (frame : Frame) :
    (call.finish module r code frame s).Attached := by
  refine hs.replace (call.finish_tables module r s code frame) ?_ nofun ?_
  · intro other id hne hid
    refine ⟨?_, nofun⟩
    rw [call.finish_buffers]
    refine if_neg ?_
    -- the buffer of the call is younger than what another table points at, or older
    rintro ⟨rfl, hcontent⟩
    rcases later.data other _ hid with old | new
    · rw [call.start_tables] at old
      have before : (r.tables other).data = some ⟨r.bufferCount⟩ := by simpa [hne] using old
      exact Nat.lt_irrefl _ (h.lt_bufferCount before)
    · rw [call.start_bufferCount, if_pos hcontent] at new
      exact Nat.lt_irrefl _ new
  · intro id hid
    rw [call.finish_bufferCount] at hid
    rw [call.finish_buffers, hs.counted id hid, ite_self]

end Rig.Attached

theorem Chronicle.attached {file : FileId} {r t : Rig} {acts : List Act}
    (h : Chronicle file r acts t) : r.Attached → t.Attached := by
  induction h with
  | done aside => exact fun hr => hr.aside aside
  | served aside frame service _ _ ih => exact fun hr => ih ((hr.aside aside).serve frame service)
  | installed aside _ _ installs _ ih => exact fun hr => ih ((hr.aside aside).installs installs)
  | called aside module call code frame body _ ihBody ih =>
    intro hr
    have before := hr.aside aside
    exact ih (before.finish (ihBody (before.start module call)) module call body.later code frame)
  | ran aside _ _ ihBody ih => exact fun hr => ih (ihBody (hr.aside aside))
  | threaded aside _ _ ihBody ih =>
    intro hr
    have before := hr.aside aside
    have after := ihBody ⟨before.held, before.apart, before.counted⟩
    exact ih ⟨after.held, after.apart, after.counted⟩

theorem Session.Reachable.attached {session : Session} (h : session.Reachable) :
    session.rig.Attached := by
  induction h with
  | start system allocator disk configs env => exact ⟨nofun, nofun, fun _ _ => rfl⟩
  | @take session _ step script ih =>
    have hs := Script.chronicled script
    exact (session.quiet.chronicle_perform hs ⟨0⟩ step).attached (ih.aside (.quiet session))
  | begun _ module call ih => exact ih.start module call
  | @ran session _ script frame ih => exact (script.chronicle frame session).attached ih
  | onThread _ ih => exact ⟨ih.held, ih.apart, ih.counted⟩

end HidRig
