import HidRig.Proofs.Contexts.Account
import HidRig.Proofs.Contexts.Lent

/-! # The balance of contexts

Over a call whose native code calls nothing itself, every context that is handed out is freed once:
when it is given back, or when the call ends. Its address may be handed out again after that.

* `Rig.Serves`: what one step of native code does to contexts.
* `Tended`: the contexts of a call in the middle of it.
* `Balanced`: the contexts of a call after it.
* `Session.contexts_balanced`: every call is tended to and balanced.
-/

namespace HidRig

/-- What a step of native code does to contexts, by the record of its call. -/
def Rig.Serves (rig : Rig) (file : FileId) (armed : Armed) : Service → Prop
  | .allocate hid =>
    ∃ id after, rig.allocate file hid = (some id, after) ∧
      rig.contexts id = none ∧
      after.contexts id = some
        { index := hid, device := 0, allocatedSize := 4096, reportType := 0, retvalOrSize := 0 } ∧
      (∀ other, other ≠ id → after.contexts other = rig.contexts other) ∧
      after.armed = some { armed with tracked := armed.tracked ++ [id] } ∧
      after.log = rig.log
  | .release none => rig.release file none = rig
  | .release (some id) =>
    if id ∈ armed.tracked then
      ∃ rest, rest.Perm (armed.tracked.erase id) ∧
        rig.release file (some id) =
          { rig with armed := some { armed with tracked := rest } }.setContext id none
    else rig.release file (some id) = rig.report .strayRelease
  | service =>
    ∀ frame, (rig.serve frame service).2.2.armed.map Armed.tracked = some armed.tracked

/-- The contexts of a call in the middle of it, after some acts. -/
structure Tended (file : FileId) (own : ContextRef) (acts : List Act) (rig : Rig) (armed : Armed) :
    Prop where
  running : rig.armed = some armed
  nodup : armed.tracked.Nodup
  outstanding : ∀ id, id ∈ armed.tracked ↔ Outstanding acts id
  live : ∀ id ∈ armed.tracked, (rig.contexts id).isSome
  own_not_mem : ∀ id, own = some id → id ∉ armed.tracked
  returned_not_mem : ∀ id, Returned acts id → id ∉ armed.tracked
  serves : ∀ service, rig.Serves file armed service

/-- The contexts of a call after it, if its native code ended in the state `last` with a record. -/
structure Balanced (own : ContextRef) (acts : List Act) (last : Rig) (armed : Armed) (event : Event)
    (after : Rig) : Prop where
  /-- What is left over was handed out and not taken back. -/
  count : armed.tracked.length + (takenBack acts).length = (handedOut acts).length
  /-- An address is taken back as often as it is handed out, or is left over the last time. -/
  once : (handedOut acts).Perm (takenBack acts ++ armed.tracked)
  /-- What is handed out is given back before its address is handed out again, or is left over. -/
  lives : ∀ pre act post id, acts = pre ++ act :: post → act.handsOut? = some id →
    (∃ kept back rest, post = kept ++ back :: rest ∧ back.givesBack? = some id ∧
      ∀ later ∈ kept, later.givesBack? ≠ some id ∧ later.handsOut? ≠ some id) ∨
    id ∈ armed.tracked ∧ ∀ later ∈ post, later.givesBack? ≠ some id ∧ later.handsOut? ≠ some id
  /-- What is left over is freed, and the context of the call itself. -/
  freed : ∀ id, after.contexts id =
    if own = some id ∨ id ∈ armed.tracked then none else last.contexts id
  /-- No context that was handed out is in memory, unless the code made one of its own there. -/
  gone : ∀ id ∈ handedOut acts, after.contexts id = none ∨ id ∈ owned acts
  /-- One warning is reported if something is left over, and none otherwise. -/
  log : after.log = last.log ++ leakWarnings armed.tracked.length ++ [event]

/-! ## In the middle of a call -/

theorem Rig.serves {rig : Rig} {armed : Armed} {file : FileId} (ha : rig.armed = some armed)
    (ht : (rig.tables file).Filled) (service : Service) :
    rig.Serves file armed service := by
  cases service with
  | allocate hid =>
    refine ⟨_, _, Rig.allocate_of_armed ht ha hid, rig.nextContext_free, ?_, ?_, rfl, rfl⟩
    · simp [Rig.newContext, Rig.setContext]
      rfl
    · exact fun other hne => rig.newContext_of_ne _ hne
  | release ctx =>
    cases ctx with
    | none => rfl
    | some id =>
      show ite _ _ _
      by_cases hid : id ∈ armed.tracked
      · rw [if_pos hid]
        exact ⟨_, id.takeOff_perm armed.tracked, Rig.release_of_tracked ht ha hid⟩
      · rw [if_neg hid]
        exact Rig.release_of_stray ht ha hid
  | request ctx data length reportType requestKind =>
    intro frame
    simp only [Rig.serve, Rig.request, ha]
    split
    · rfl
    · exact congrArg (Option.map Armed.tracked) ha
  | _ => exact fun _ => congrArg (Option.map Armed.tracked) ha

section
variable (session : Session) (module : TestModule) (call : Call) (script : Option Script)
  (own : ∀ act ∈ session.callActs module call script, act.IsServed)
include own

theorem Session.tended {pre post : List Act}
    (h : session.callActs module call script = pre ++ post) :
    let rig := stateAt (session.ended module call script).session.rig post
    ∃ armed, Tended module.file (call.start module session.rig).1.given pre rig armed := by
  intro rig
  obtain ⟨armed, ha, account, filled⟩ := session.accounts_before module call script own h
  have whole := session.chronicle_ended (Script.chronicled script) module call
  rw [h] at whole
  have first : Chronicle module.file (call.start module session.rig).2 pre rig := whole.split.1
  refine ⟨armed, ha, account.nodup, ?_, account.live, ?_, ?_, Rig.serves ha filled⟩
  · intro id
    rw [account.mem_tracked_iff, mem_held_iff]
  · exact fun id given => (first.lends (call.lends_given module session.rig given)).untracked armed ha
  · exact fun id returned listed =>
      returned.not_mem_held ((account.mem_tracked_iff id).mp listed)

/-- A context that is held is not handed out. -/
theorem Session.handsOut?_ne_of_held {pre post : List Act} {act : Act} {id : ContextId}
    (h : session.callActs module call script = pre ++ act :: post) (hid : id ∈ held pre) :
    act.handsOut? ≠ some id := by
  have served : act.IsServed := own act (h ▸ List.mem_append_right _ (.head _))
  cases act with
  | served before frame service =>
    obtain ⟨armed, -, account, -⟩ := session.accounts_before module call script own h
    have live : (before.contexts id).isSome :=
      account.live id ((account.mem_tracked_iff id).mpr hid)
    intro out
    rw [Act.free_of_handsOut? out] at live
    cases live
  | _ => cases served

/-- A context that is not given back over some acts is not handed out again by any of them. -/
theorem Session.kept_of_handsOut? {pre kept post : List Act} {act : Act} {id : ContextId}
    (h : session.callActs module call script = pre ++ act :: (kept ++ post))
    (out : act.handsOut? = some id) (keeps : ∀ later ∈ kept, later.givesBack? ≠ some id) :
    ∀ later ∈ kept, later.handsOut? ≠ some id := by
  intro later member
  obtain ⟨front, back, rfl⟩ := List.append_of_mem member
  have split : session.callActs module call script =
      (pre ++ act :: front) ++ later :: (back ++ post) := by simpa using h
  refine session.handsOut?_ne_of_held module call script own split ?_
  rw [mem_held_iff]
  exact ⟨pre, act, front, rfl, out, fun x hx => keeps x (List.mem_append_left _ hx)⟩

/-! ## After a call -/

/-- What becomes of a context that was handed out: it is given back before its address is handed out
again, or is held to the end. -/
theorem Session.life_of_handsOut? {pre post : List Act} {act : Act} {id : ContextId}
    (h : session.callActs module call script = pre ++ act :: post)
    (out : act.handsOut? = some id) :
    (∃ kept back rest, post = kept ++ back :: rest ∧ back.givesBack? = some id ∧
      ∀ later ∈ kept, later.givesBack? ≠ some id ∧ later.handsOut? ≠ some id) ∨
    id ∈ held (session.callActs module call script) ∧
      ∀ later ∈ post, later.givesBack? ≠ some id ∧ later.handsOut? ≠ some id := by
  cases found : post.find? fun later => later.givesBack? = some id with
  | some back =>
    obtain ⟨gives, kept, rest, rfl, others⟩ := List.find?_eq_some_iff_append.mp found
    have keeps : ∀ later ∈ kept, later.givesBack? ≠ some id := by simpa using others
    have again := session.kept_of_handsOut? module call script own h out keeps
    exact .inl ⟨kept, back, rest, rfl, by simpa using gives,
      fun later member => ⟨keeps later member, again later member⟩⟩
  | none =>
    have keeps : ∀ later ∈ post, later.givesBack? ≠ some id := by
      simpa using List.find?_eq_none.mp found
    have whole : session.callActs module call script = pre ++ act :: (post ++ []) := by
      rw [List.append_nil, h]
    have again := session.kept_of_handsOut? module call script own whole out keeps
    exact .inr ⟨(mem_held_iff _ id).mpr ⟨pre, act, post, h, out, keeps⟩,
      fun later member => ⟨keeps later member, again later member⟩⟩

theorem Session.balanced :
    let ended := session.ended module call script
    ∃ armed, ended.session.rig.armed = some armed ∧
      Balanced (call.start module session.rig).1.given (session.callActs module call script)
        ended.session.rig armed
        (call.event module ended.code ended.frame armed.requests.length)
        (session.called module call script).rig := by
  intro ended
  obtain ⟨armed, ha, account, -⟩ :=
    session.accounts_before module call script own (List.append_nil _).symm
  have ends : ended.session.rig.disarm module.file = _ := Rig.disarm_of_armed ha
  have freed : ∀ id, (session.called module call script).rig.contexts id =
      if (call.start module session.rig).1.given = some id ∨ id ∈ armed.tracked then none
      else ended.session.rig.contexts id := by
    intro id
    rw [Session.called, Call.finish_contexts, ends]
    by_cases hown : (call.start module session.rig).1.given = some id
    · simp [hown]
    · simp [hown, Rig.reportAll, Rig.freeContexts, Rig.setTable]
  refine ⟨armed, ha, ?_, account.split, ?_, freed, ?_, ?_⟩
  · rw [account.split.length_eq, List.length_append, Nat.add_comm]
  · intro pre act post id split out
    exact (session.life_of_handsOut? module call script own split out).imp_right
      (.imp_left (account.mem_tracked_iff id).mpr)
  · intro id hid
    rw [freed]
    split
    · exact .inl rfl
    · rename_i left
      rcases List.mem_append.mp (account.split.mem_iff.mp hid) with back | listed
      · exact (account.gone id back).imp_right fun later =>
          later.resolve_left fun listed => left (.inr listed)
      · exact absurd (.inr listed) left
  · rw [Session.called, Call.finish_log, ends]
    rfl

end

/-- Over a call whose native code calls nothing itself, contexts are tended to at every point, and
balanced at the end. A hook that succeeds reports how many were left over. -/
theorem Session.contexts_balanced (session : Session) (module : TestModule) (call : Call)
    (script : Option Script)
    (own : ∀ act ∈ session.callActs module call script, act.IsServed) :
    let acts := session.callActs module call script
    let ended := session.ended module call script
    let given := (call.start module session.rig).1.given
    (∀ pre post, acts = pre ++ post →
      ∃ armed, Tended module.file given pre (stateAt ended.session.rig post) armed) ∧
    ∃ armed, ended.session.rig.armed = some armed ∧
      Balanced given acts ended.session.rig armed
        (call.event module ended.code ended.frame armed.requests.length)
        (session.called module call script).rig ∧
      (∀ args, call = .probe args →
        (session.probe module args (script.map Script.run)).2.2 =
          session.called module call script) ∧
      ∀ role payload entry options data, call = .hook role payload entry options →
        module.prepare role data = .ok (payload, entry) →
        let outcome := session.hook module role data options (script.map Script.run)
        outcome.2.2 = session.called module call script ∧
        (ended.code = 0 →
          ∃ invocation, outcome.1 = .ok invocation ∧ invocation.leaked = armed.tracked.length) ∧
        (ended.code ≠ 0 →
          outcome.1 = .error (.returnCode module.name (.hook role) ended.code)) := by
  intro acts ended given
  refine ⟨fun pre post h => session.tended module call script own h, ?_⟩
  obtain ⟨armed, ha, balanced⟩ := session.balanced module call script own
  refine ⟨armed, ha, balanced, fun args hcall => by rw [session.probe_eq, hcall], ?_⟩
  rintro role payload entry options data rfl prepared
  refine ⟨by rw [session.hook_eq module role data options script prepared], fun hcode => ?_,
    session.hook_of_code_ne_zero module role data options script prepared⟩
  obtain ⟨invocation, hout, hreport⟩ :=
    session.hook_of_code_zero module role data options script prepared hcode
  refine ⟨invocation, hout, ?_⟩
  rw [Rig.disarm_of_armed ha] at hreport
  exact congrArg Rig.CallReport.leaked hreport

/-- Native code that gives a context back through a pointer to another, which had its address
before, and keeps a third. -/
def Native.releaseAgain : Native Int32 := do
  let first ← Native.allocate 1
  Native.release first
  let _ ← Native.allocate 2
  Native.release first
  let _ ← Native.allocate 3
  pure 0

/-- Where the first free address is taken, it has one address three times. -/
theorem Session.contexts_balanced_again :
    let session :=
      Session.startWith (UsualLoader.ofVariable none).system .firstFit Disk.empty [] fun _ => none
    let module := TestModule.uniform ⟨1⟩ (.code Native.releaseAgain)
    let call : Call := .hook .deviceEvent (some ⟨[1, 2], 2⟩) (.code Native.releaseAgain) {}
    let acts := session.callActs module call none
    (∀ act ∈ acts, act.IsServed) ∧ handedOut acts = [⟨1⟩, ⟨1⟩, ⟨1⟩] ∧
      ∃ invocation, (session.hook module .deviceEvent (some [1, 2]) {} none).1 = .ok invocation ∧
        invocation.leaked + (takenBack acts).length = 3 := by
  intro session module call acts
  have own : ∀ act ∈ acts, act.IsServed := Native.isServed_of_mem Native.releaseAgain _ _
  have handed : handedOut acts = [⟨1⟩, ⟨1⟩, ⟨1⟩] := by decide +kernel
  obtain ⟨-, armed, -, balanced, -, hook⟩ := session.contexts_balanced module call none own
  obtain ⟨-, succeeds, -⟩ := hook .deviceEvent _ _ _ (some [1, 2]) rfl rfl
  obtain ⟨invocation, outcome, leaked⟩ := succeeds (by decide +kernel)
  refine ⟨own, handed, invocation, outcome, ?_⟩
  rw [leaked, balanced.count, handed]
  rfl

end HidRig
