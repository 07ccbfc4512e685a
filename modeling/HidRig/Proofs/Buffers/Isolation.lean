import HidRig.Proofs.Buffers.Range
import HidRig.Proofs.Buffers.Turns

/-! # The buffer of a call is its own

A hook works on a buffer that no other code can reach, as long as native code keeps to the ranges
that it is handed out. Calls that it makes of other modules come and go without a trace in it.

* `Role.fill`: the bytes that a hook starts with.
* `Careful`: code that keeps to its ranges.
* `patched`: bytes with the writes of some steps applied in order.
* `Session.buffer_isolated`: what a hook reads and gives back.
-/

namespace HidRig

/-! ## The bytes of a hook -/

/-- The bytes that a hook starts with. A descriptor is followed by zeros up to the full size. -/
def Role.fill : Role → Bytes → Bytes
  | reportDescriptorFixup, rdesc => rdesc ++ List.replicate (4096 - rdesc.length) 0
  | deviceEvent, report => report

/-- How many bytes a hook works on. -/
def Role.fillLength : Role → Bytes → Nat
  | reportDescriptorFixup, _ => 4096
  | deviceEvent, report => report.length

theorem Payload.content_of_forRole {role : Role} {data : Option Bytes} {payload : Option Payload}
    (h : Payload.forRole role data = .ok payload) :
    payload.map Payload.buffer = data.map role.fill ∧
      data.map (fun bytes => (role.fill bytes).length) = data.map role.fillLength := by
  cases data with
  | none => cases role <;> cases h <;> exact ⟨rfl, rfl⟩
  | some bytes =>
    cases role with
    | deviceEvent => cases h; exact ⟨rfl, rfl⟩
    | reportDescriptorFixup =>
      simp only [Payload.forRole, Payload.ofDescriptor?] at h
      split at h
      · cases h
      · next small =>
        cases h
        have fits : bytes.length ≤ 4096 := Nat.le_of_not_lt small
        have whole : bytes.take 4096 = bytes := List.take_of_length_le fits
        constructor
        · simp [Bytes.resize, Role.fill, Abi.bufferSize, whole]
        · simp [Role.fill, Role.fillLength]
          omega

theorem TestModule.content_of_prepare {module : TestModule} {role : Role} {data : Option Bytes}
    {payload : Option Payload} {entry : EntryPoint}
    (h : module.prepare role data = .ok (payload, entry)) :
    payload.map Payload.buffer = data.map role.fill ∧
      data.map (fun bytes => (role.fill bytes).length) = data.map role.fillLength :=
  Payload.content_of_forRole (TestModule.prepare_eq_ok_iff.mp h).1

/-! ## Code that keeps to its ranges -/

/-- Some bytes of a buffer. -/
structure Span where
  window : Window
  size : Nat

structure Span.Within (inner outer : Span) : Prop where
  buffer : inner.window.buffer = outer.window.buffer
  start : outer.window.start ≤ inner.window.start
  stop : inner.window.start + inner.size ≤ outer.window.start + outer.size

instance (inner outer : Span) : Decidable (inner.Within outer) :=
  decidable_of_iff
    (inner.window.buffer = outer.window.buffer ∧ outer.window.start ≤ inner.window.start ∧
      inner.window.start + inner.size ≤ outer.window.start + outer.size)
    ⟨fun ⟨buffer, start, stop⟩ => ⟨buffer, start, stop⟩,
      fun ⟨buffer, start, stop⟩ => ⟨buffer, start, stop⟩⟩

namespace Turn

/-- The span that a step is handed out, if it asks for less than 2^63 bytes. -/
def grant? (turn : Turn) : Option Span :=
  match turn.service with
  | .getData offset size =>
    if size.toNat < 2 ^ 63 then
      (turn.before.getData turn.frame.file offset size).map fun window => ⟨window, size.toNat⟩
    else none
  | _ => none

/-- The span that a step reads or writes. -/
def reach? (turn : Turn) : Option Span :=
  match turn.service with
  | .read window size => some ⟨window, size⟩
  | .write window bytes => some ⟨window, bytes.length⟩
  | _ => none

theorem span_of_grant {turn : Turn} {grant : Span} (h : turn.grant? = some grant) :
    (turn.before.tables turn.frame.file).data = some grant.window.buffer ∧
      grant.window.start + grant.size ≤ (turn.before.tables turn.frame.file).dataLen.toNat := by
  obtain ⟨before, frame, service⟩ := turn
  cases service with
  | getData offset size =>
    have hoffset := offset.toNat_lt
    simp only [grant?] at h
    split at h
    · next small =>
      obtain ⟨window, hwindow, rfl⟩ := Option.map_eq_some_iff.mp h
      obtain ⟨id, granted, rfl⟩ := Option.map_eq_some_iff.mp hwindow
      have fits := ServiceTable.fits_of_grants granted (by omega)
      exact ⟨fits.1, fits.2.2⟩
    · cases h
  | _ => cases h

end Turn

/-- Each step that reads or writes keeps to a span that was handed out before it: to one of some
spans, or to one that a step before it was handed out. -/
def Careful (granted : List Span) : List Turn → Prop
  | [] => True
  | turn :: turns =>
    (∀ span ∈ turn.reach?, ∃ grant ∈ granted, span.Within grant) ∧
      Careful (turn.grant?.toList ++ granted) turns

instance Careful.decidable : ∀ granted turns, Decidable (Careful granted turns)
  | _, [] => .isTrue trivial
  | granted, turn :: turns =>
    have := Careful.decidable (turn.grant?.toList ++ granted) turns
    inferInstanceAs (Decidable (_ ∧ _))

theorem Careful.grant {granted : List Span} {turns : List Turn} (h : Careful granted turns)
    {turn : Turn} (hturn : turn ∈ turns) {span : Span} (hspan : turn.reach? = some span) :
    ∃ grant, (grant ∈ granted ∨ ∃ earlier ∈ turns, earlier.grant? = some grant) ∧
      span.Within grant := by
  induction turns generalizing granted with
  | nil => cases hturn
  | cons first turns ih =>
    obtain ⟨now, next⟩ := h
    rcases List.mem_cons.mp hturn with rfl | hturn
    · obtain ⟨grant, hgrant, within⟩ := now span hspan
      exact ⟨grant, .inl hgrant, within⟩
    · obtain ⟨grant, hgrant | ⟨earlier, hearlier, hgrant⟩, within⟩ := ih next hturn
      · rcases List.mem_append.mp hgrant with here | before
        · exact ⟨grant, .inr ⟨first, .head _, Option.mem_toList.mp here⟩, within⟩
        · exact ⟨grant, .inl before, within⟩
      · exact ⟨grant, .inr ⟨earlier, .tail _ hearlier, hgrant⟩, within⟩

theorem Careful.earlier {turns : List Turn} (h : Careful [] turns) {turn : Turn}
    (hturn : turn ∈ turns) {span : Span} (hspan : turn.reach? = some span) :
    ∃ earlier ∈ turns, ∃ grant, earlier.grant? = some grant ∧ span.Within grant := by
  obtain ⟨grant, nothing | ⟨earlier, hearlier, hgrant⟩, within⟩ := h.grant hturn hspan
  · cases nothing
  · exact ⟨earlier, hearlier, grant, hgrant, within⟩

/-- Only the files whose code takes a step need to be looked at. -/
theorem careful_of_mem {acts : List Act}
    (h : ∀ turn ∈ turns acts, Careful [] (turnsOf turn.frame.file acts)) (file : FileId) :
    Careful [] (turnsOf file acts) := by
  by_cases found : ∃ turn ∈ turns acts, turn.frame.file = file
  · obtain ⟨turn, hturn, rfl⟩ := found
    exact h turn hturn
  · have none : turnsOf file acts = [] := by
      refine List.filter_eq_nil_iff.mpr fun turn hturn => ?_
      simpa using fun own => found ⟨turn, hturn, own⟩
    rw [none]
    trivial

/-! ## Writes in order -/

/-- Puts `new` in place of as many bytes from `start` on. -/
def Bytes.patch (bytes : Bytes) (start : Nat) (new : Bytes) : Bytes :=
  bytes.take start ++ new ++ bytes.drop (start + new.length)

theorem Bytes.overwrite_eq_patch {bytes new : Bytes} {start : Nat}
    (h : start + new.length ≤ bytes.length) : bytes.overwrite start new = bytes.patch start new := by
  have room : new.take (bytes.length - start) = new := List.take_of_length_le (by omega)
  simp only [overwrite, patch, room]

def Service.patch (service : Service) (content : Bytes) : Bytes :=
  match service with
  | .write window bytes => content.patch window.start bytes
  | _ => content

/-- The bytes after all writes of some steps, in order. -/
def patched (turns : List Turn) (content : Bytes) : Bytes :=
  turns.foldl (fun content turn => turn.service.patch content) content

/-- A step of the code of a file keeps to a buffer of some length, and one of other code keeps out
of it. -/
def Turn.KeepsTo (file : FileId) (id : BufferId) (length : Nat) (turn : Turn) : Prop :=
  ∀ span, turn.reach? = some span →
    if turn.frame.file = file then
      span.window.buffer = id ∧ span.window.start + span.size ≤ length
    else span.window.buffer ≠ id

section
variable {file : FileId} {id : BufferId} {content : Bytes}

theorem Turn.KeepsTo.rewrite_eq {turn : Turn} (h : turn.KeepsTo file id content.length) :
    turn.service.rewrite id content =
      if turn.frame.file = file then turn.service.patch content else content := by
  obtain ⟨before, frame, service⟩ := turn
  cases service with
  | write window bytes =>
    have keeps := h ⟨window, bytes.length⟩ rfl
    dsimp only [Service.rewrite, Service.patch] at keeps ⊢
    split at keeps
    · next own => rw [if_pos keeps.1, if_pos own, Bytes.overwrite_eq_patch keeps.2]
    · next other => rw [if_neg keeps, if_neg other]
  | _ => simp [Service.rewrite, Service.patch]

/-- Only the writes of the file's own code show in the buffer. -/
theorem rewritten_eq_patched {turns : List Turn}
    (h : ∀ turn ∈ turns, turn.KeepsTo file id content.length) :
    rewritten id turns content =
      patched (turns.filter fun turn => turn.frame.file = file) content := by
  induction turns generalizing content with
  | nil => rfl
  | cons turn turns ih =>
    have first := (h turn (.head _)).rewrite_eq
    have later : ∀ other ∈ turns, other.KeepsTo file id (turn.service.rewrite id content).length := by
      intro other hother
      rw [Service.length_rewrite]
      exact h other (.tail _ hother)
    refine (ih later).trans ?_
    rw [first, List.filter_cons]
    by_cases own : turn.frame.file = file
    · simp [own, patched]
    · simp [own]

end

/-! ## A call -/

section
variable {session : Session} (reachable : session.Reachable) (module : TestModule) (call : Call)
  (script : Option Script)

theorem Session.table_of_mem
    (untouched : touches module.file (session.callActs module call script) = []) {turn : Turn}
    (hturn : turn ∈ turnsOf module.file (session.callActs module call script)) :
    turn.before.tables turn.frame.file = .armed (call.buffer session.rig) := by
  obtain ⟨hmem, own⟩ := mem_turnsOf.mp hturn
  have h := session.chronicle_ended (Script.chronicled script) module call
  rw [own, h.tables_of_mem untouched turn hmem, call.start_tables]
  exact if_pos rfl

/-- What the code of a call is handed out is in the buffer of the call. -/
theorem Session.span_of_own
    (untouched : touches module.file (session.callActs module call script) = []) {turn : Turn}
    (hturn : turn ∈ turnsOf module.file (session.callActs module call script)) {grant : Span}
    (hgrant : turn.grant? = some grant) :
    ∃ content, call.content = some content ∧
      grant.window.buffer = ⟨session.rig.bufferCount⟩ ∧
      grant.window.start + grant.size ≤ content.length := by
  obtain ⟨data, last⟩ := Turn.span_of_grant hgrant
  rw [session.table_of_mem module call script untouched hturn, call.buffer_eq] at data last
  cases hc : call.content with
  | none => simp [hc, ServiceTable.armed, ServiceTable.disarmed] at data
  | some content =>
    refine ⟨content, rfl, ?_, Nat.le_trans last ?_⟩
    · simpa [hc, ServiceTable.armed] using data.symm
    · rw [hc]
      exact ServiceTable.toNat_dataLen_le content.length

include reachable

/-- What other code is handed out during a call is not in the buffer of the call. -/
theorem Session.span_of_other {content : Bytes} (hcontent : call.content = some content)
    {turn : Turn} (hturn : turn ∈ turns (session.callActs module call script))
    (other : turn.frame.file ≠ module.file) {grant : Span} (hgrant : turn.grant? = some grant) :
    grant.window.buffer ≠ ⟨session.rig.bufferCount⟩ := by
  have h := session.chronicle_ended (Script.chronicled script) module call
  obtain ⟨data, -⟩ := Turn.span_of_grant hgrant
  intro heq
  rw [heq] at data
  rcases (h.later_of_mem turn hturn).data _ _ data with old | new
  · -- a table from before the call points at a buffer from before
    rw [call.start_tables] at old
    have before : (session.rig.tables turn.frame.file).data = some ⟨session.rig.bufferCount⟩ := by
      simpa [other] using old
    exact Nat.lt_irrefl _ (reachable.attached.lt_bufferCount before)
  · rw [call.start_bufferCount, hcontent] at new
    exact Nat.lt_irrefl _ new

theorem Session.keepsTo
    (untouched : touches module.file (session.callActs module call script) = [])
    (careful : ∀ file, Careful [] (turnsOf file (session.callActs module call script)))
    {content : Bytes} (hcontent : call.content = some content) :
    ∀ turn ∈ turns (session.callActs module call script),
      turn.KeepsTo module.file ⟨session.rig.bufferCount⟩ content.length := by
  intro turn hturn span hspan
  have mem : turn ∈ turnsOf turn.frame.file (session.callActs module call script) :=
    mem_turnsOf.mpr ⟨hturn, rfl⟩
  obtain ⟨earlier, hearlier, grant, hgrant, within⟩ := (careful _).earlier mem hspan
  split
  · next own =>
    rw [own] at hearlier
    obtain ⟨found, hfound, buffer, last⟩ :=
      session.span_of_own module call script untouched hearlier hgrant
    rw [hcontent] at hfound
    cases hfound
    exact ⟨within.buffer.trans buffer, Nat.le_trans within.stop last⟩
  · next other =>
    obtain ⟨hmem, same⟩ := mem_turnsOf.mp hearlier
    rw [within.buffer]
    exact session.span_of_other reachable module call script hcontent hmem (same ▸ other) hgrant

end

theorem Session.rewrites_call (session : Session) (module : TestModule) (call : Call)
    (script : Option Script) {content : Bytes} (hcontent : call.content = some content) :
    let id : BufferId := ⟨session.rig.bufferCount⟩
    let acts := session.callActs module call script
    (session.ended module call script).session.rig.buffers id =
        some (rewritten id (turns acts) content) ∧
      ∀ pre turn post, turns acts = pre ++ turn :: post →
        turn.before.buffers id = some (rewritten id pre content) := by
  intro id acts
  have h := session.chronicle_ended (Script.chronicled script) module call
  have starts : (call.start module session.rig).2.buffers id = some content := by
    rw [call.start_buffers, if_pos rfl, hcontent]
    rfl
  have younger : id.number < (call.start module session.rig).2.bufferCount := by
    rw [call.start_bufferCount, hcontent]
    exact Nat.lt_succ_self _
  have rewrites := h.rewrites younger
  refine ⟨?_, fun pre turn post heq => ?_⟩
  · rw [rewrites.last, starts]
    rfl
  · rw [rewrites.within pre turn post heq, starts]
    rfl

theorem turnsOf_split {file : FileId} {acts : List Act} {pre post : List Turn} {turn : Turn}
    (h : turnsOf file acts = pre ++ turn :: post) :
    ∃ front back, turns acts = front ++ turn :: back ∧
      (front.filter fun turn => turn.frame.file = file) = pre := by
  obtain ⟨front, rest, hacts, rfl, hrest⟩ := List.filter_eq_append_iff.mp h
  obtain ⟨skipped, back, rfl, hskipped, -, -⟩ := List.filter_eq_cons_iff.mp hrest
  refine ⟨front ++ skipped, back, by rw [hacts, List.append_assoc], ?_⟩
  rw [List.filter_append, List.filter_eq_nil_iff.mpr hskipped, List.append_nil]

/-- If all code is careful, the buffer of a call holds the writes of its own code at any time. -/
theorem Session.patches_call {session : Session} (reachable : session.Reachable)
    (module : TestModule) (call : Call) (script : Option Script)
    (untouched : touches module.file (session.callActs module call script) = [])
    (careful : ∀ file, Careful [] (turnsOf file (session.callActs module call script)))
    {content : Bytes} (hcontent : call.content = some content) :
    let id : BufferId := ⟨session.rig.bufferCount⟩
    let own := turnsOf module.file (session.callActs module call script)
    (session.ended module call script).session.rig.buffers id = some (patched own content) ∧
      ∀ pre turn post, own = pre ++ turn :: post →
        turn.before.buffers id = some (patched pre content) := by
  intro id own
  have keeps := session.keepsTo reachable module call script untouched careful hcontent
  obtain ⟨last, within⟩ := session.rewrites_call module call script hcontent
  refine ⟨?_, fun pre turn post split => ?_⟩
  · rw [rewritten_eq_patched keeps] at last
    exact last
  · -- the steps before it at any depth, of which the own ones are those before it
    obtain ⟨front, back, hturns, rfl⟩ := turnsOf_split split
    have before := within front turn back hturns
    rwa [rewritten_eq_patched fun turn hmem => keeps turn (hturns ▸ List.mem_append_left _ hmem)]
      at before

theorem Session.hook_data (session : Session) (module : TestModule) (role : Role)
    (data : Option Bytes) (options : InvokeOptions) (script : Option Script)
    {payload : Option Payload} {entry : EntryPoint}
    (prepared : module.prepare role data = .ok (payload, entry))
    (hcode : (session.ended module (.hook role payload entry options) script).code = 0) :
    ∃ invocation,
      (session.hook module role data options (script.map Script.run)).1 = .ok invocation ∧
      invocation.data = (payload.map Payload.buffer).bind fun _ =>
        (session.ended module (.hook role payload entry options) script).session.rig.buffers
          ⟨session.rig.bufferCount⟩ := by
  rw [session.hook_eq module role data options script prepared]
  refine ⟨_, if_pos hcode, ?_⟩
  cases payload with
  | none => rfl
  | some payload => exact congrFun Rig.disarm_buffers _

/-- A hook gives back as many bytes as it started with. If nothing else enters its file meanwhile, it
is handed out nothing without data; and if all code is careful, it reads and gives back the bytes
that it started with, with the writes of its own code applied in order. -/
theorem Session.buffer_isolated (session : Session) (reachable : session.Reachable)
    (module : TestModule) (role : Role) (data : Option Bytes) (options : InvokeOptions)
    (script : Option Script) (payload : Option Payload) (entry : EntryPoint)
    (prepared : module.prepare role data = .ok (payload, entry)) :
    let call := Call.hook role payload entry options
    let acts := session.callActs module call script
    let own := turnsOf module.file acts
    let ended := session.ended module call script
    let outcome := session.hook module role data options (script.map Script.run)
    (ended.code = 0 → ∃ invocation, outcome.1 = .ok invocation ∧
      invocation.data.map List.length = data.map role.fillLength) ∧
    (touches module.file acts = [] → data = none →
      ∀ rig frame offset size, ⟨rig, frame, .getData offset size⟩ ∈ own →
        (rig.serve frame (.getData offset size)).1 = none) ∧
    (touches module.file acts = [] → (∀ file, Careful [] (turnsOf file acts)) →
      (∀ pre rig frame window size post,
        own = pre ++ ⟨rig, frame, .read window size⟩ :: post →
        ∃ bytes, data = some bytes ∧ window.start + size ≤ (role.fill bytes).length ∧
          (rig.serve frame (.read window size)).1 =
            (patched pre (role.fill bytes)).window window.start size) ∧
      (ended.code = 0 → ∃ invocation, outcome.1 = .ok invocation ∧
        invocation.data = data.map fun bytes => patched own (role.fill bytes))) := by
  intro call acts own ended outcome
  obtain ⟨fills, lengths⟩ := TestModule.content_of_prepare prepared
  have content : call.content = data.map role.fill := fills
  refine ⟨fun hcode => ?_, fun untouched hdata => ?_, fun untouched careful => ⟨?_, ?_⟩⟩
  · obtain ⟨invocation, hout, hdata⟩ :=
      session.hook_data module role data options script prepared hcode
    refine ⟨invocation, hout, ?_⟩
    rw [hdata, fills, ← lengths]
    cases data with
    | none => rfl
    | some bytes =>
      have last := (session.rewrites_call module call script content).1
      simp only [Option.map_some, Option.bind_some]
      rw [last, Option.map_some, length_rewritten]
  · intro rig frame offset size hturn
    have table := session.table_of_mem module call script untouched hturn
    rw [call.buffer_eq, content, hdata] at table
    simp only [Rig.serve, Rig.getData]
    rw [table, ServiceTable.grants_of_data_none rfl]
    rfl
  · intro pre rig frame window size post split
    have hturn : ⟨rig, frame, .read window size⟩ ∈ own := by
      rw [split]
      exact List.mem_append_right _ (.head _)
    have reaches : Turn.reach? ⟨rig, frame, .read window size⟩ = some ⟨window, size⟩ := rfl
    obtain ⟨earlier, hearlier, grant, hgrant, within⟩ :=
      (careful module.file).earlier hturn reaches
    obtain ⟨found, hfound, buffer, last⟩ :=
      session.span_of_own module call script untouched hearlier hgrant
    obtain ⟨bytes, rfl, rfl⟩ := Option.map_eq_some_iff.mp (content ▸ hfound)
    refine ⟨bytes, rfl, Nat.le_trans within.stop last, ?_⟩
    have before : rig.buffers _ = _ :=
      (session.patches_call reachable module call script untouched careful hfound).2 _ _ _ split
    have place : window.buffer = ⟨session.rig.bufferCount⟩ := within.buffer.trans buffer
    show rig.readWindow window size = _
    rw [Rig.readWindow, place, before]
    rfl
  · intro hcode
    obtain ⟨invocation, hout, hdata⟩ :=
      session.hook_data module role data options script prepared hcode
    refine ⟨invocation, hout, ?_⟩
    rw [hdata, fills]
    cases data with
    | none => rfl
    | some bytes =>
      exact (session.patches_call reachable module call script untouched careful content).1

/-! ## A neighbour that writes -/

/-- A session with a module that has a buffer of its own outside of calls, and more files. -/
def Session.withNeighbour (more : List (Path × Disk.Item Image)) : Session :=
  let image : Image :=
    ⟨[(Abi.probeSymbol, .scripted), (Abi.setCallbacksSymbol, .helper), ("event", .scripted)]⟩
  let disk := Disk.empty.makeAll ((.ofText "libtest-b.so", .file (.native image)) :: more)
  let start := Session.start disk [⟨[.ofText "."], SearchConfig.defaultPrefix⟩] fun _ => none
  let loaded := (start.take (.load (.indexed 0) "b" "b") none).2
  (loaded.take (.install "b" (some [5, 5, 5, 5])) none).2

/-- The document of the module, which gives it a hook. -/
def neighbourDocument : Path × Disk.Item Image :=
  (.ofText "libtest-b.json",
    .file (.bytes (Utf8.encode (Document.json [⟨"struct_ops/hid_device_event", "event"⟩]))))

def Script.flood : Script :=
  .call (.getData 0 4) fun
    | none => .idle
    | some window => .call (.write window [7, 7, 7, 7]) fun _ => .idle

/-- Writes two bytes, and reads them again after a call of the neighbour, which writes its own. -/
def Script.amid : Script :=
  .call (.getData 1 2) fun
    | none => .idle
    | some window =>
      .call (.write window [9, 8]) fun _ =>
        .stepWith (.hook "b" .deviceEvent (some [5, 5, 5, 5]) none) .flood fun _ =>
          .call (.read window 2) fun _ => .idle

/-- What a turn reads. -/
def Turn.reads? (turn : Turn) : Option (Window × Nat) :=
  match turn.service with
  | .read window size => some (window, size)
  | _ => none

theorem Turn.eq_read {turn : Turn} {window : Window} {size : Nat}
    (h : turn.reads? = some (window, size)) :
    turn = ⟨turn.before, turn.frame, .read window size⟩ := by
  obtain ⟨before, frame, service⟩ := turn
  cases service <;> cases h
  rfl

/-- What the neighbour writes in a call of its own does not show in the report. -/
theorem Session.buffer_isolated_amid :
    let session := Session.withNeighbour [neighbourDocument]
    let module := TestModule.uniform ⟨2⟩ .scripted
    let call : Call := .hook .deviceEvent (some ⟨[1, 2, 3, 4], 4⟩) .scripted {}
    let acts := session.callActs module call (some .amid)
    (session.Reachable ∧ touches module.file acts = [] ∧
      (∀ file, Careful [] (turnsOf file acts)) ∧
      (turnsOf ⟨0⟩ acts).length = 2 ∧ touches ⟨0⟩ acts = [.entered, .left]) ∧
    (∃ turn ∈ turnsOf module.file acts, turn.service = .read ⟨⟨1⟩, 1⟩ 2 ∧
      turn.before.readWindow ⟨⟨1⟩, 1⟩ 2 = [9, 8]) ∧
    ∃ invocation,
      (session.hook module .deviceEvent (some [1, 2, 3, 4]) {} (some Script.amid.run)).1 =
        .ok invocation ∧
      invocation.data = some [1, 9, 8, 4] := by
  intro session module call acts
  have reachable : session.Reachable := ((Session.Reachable.start _ _ _ _ _).take _ _).take _ _
  let own := turnsOf module.file acts
  -- all that is to be seen in the acts, in one evaluation
  obtain ⟨untouched, every, neighbour, length, last, before, after, code⟩ :
      touches module.file acts = [] ∧
      (∀ turn ∈ turns acts, Careful [] (turnsOf turn.frame.file acts)) ∧
      ((turnsOf ⟨0⟩ acts).length = 2 ∧ touches ⟨0⟩ acts = [.entered, .left]) ∧
      own.length = 3 ∧ own[2]?.bind Turn.reads? = some (⟨⟨1⟩, 1⟩, 2) ∧
      (patched (own.take 2) [1, 2, 3, 4]).window 1 2 = [9, 8] ∧
      patched own [1, 2, 3, 4] = [1, 9, 8, 4] ∧
      (session.ended module call (some .amid)).code = 0 := by
    decide +kernel
  have careful : ∀ file, Careful [] (turnsOf file acts) := careful_of_mem every
  obtain ⟨-, -, isolated⟩ := session.buffer_isolated reachable module .deviceEvent
    (some [1, 2, 3, 4]) {} (some .amid) _ _ rfl
  obtain ⟨reads, gives⟩ := isolated untouched careful
  refine ⟨⟨reachable, untouched, careful, neighbour⟩, ?_, ?_⟩
  · obtain ⟨turn, there, read⟩ := Option.bind_eq_some_iff.mp last
    have split : own = own.take 2 ++ [turn] := by
      obtain ⟨inside, rfl⟩ := List.getElem?_eq_some_iff.mp there
      rw [List.take_append_getElem, List.take_of_length_le (Nat.le_of_eq length)]
    rw [Turn.eq_read read] at split
    obtain ⟨bytes, same, -, answer⟩ := reads _ _ _ _ _ [] split
    cases same
    refine ⟨turn, List.mem_of_getElem? there, ?_, answer.trans before⟩
    exact congrArg Turn.service (Turn.eq_read read)
  · obtain ⟨invocation, hout, hdata⟩ := gives code
    exact ⟨invocation, hout, hdata.trans (congrArg some after)⟩

end HidRig
