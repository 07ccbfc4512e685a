import HidRig.Proofs.Contexts.Held
import HidRig.Proofs.Tables.Settled
import Mathlib.Data.List.Nodup

/-! # The account of a call

While native code runs undisturbed, the rig's record of the call agrees with what the code was
answered: the contexts on its list are those that the code holds, and its requests are those that
the code made.

* `Accounts`: this agreement.
* `Accounts.serve`: a step of native code keeps it.
* `Solo`: a run of native code that calls nothing itself, and `Solo.accounts`: it keeps the account.
* `Chronicle.accounts_before`, `Session.accounts_before`, `Session.account_of_served`: the account
  in the middle of a call.
-/

namespace HidRig

/-- The act is a step of the native code itself. -/
def Act.IsServed : Act → Prop
  | served .. => True
  | _ => False

instance : DecidablePred Act.IsServed
  | .served .. => .isTrue trivial
  | .installed .. | .called .. | .ran .. | .threaded .. => .isFalse id

/-- A program of native code cannot do anything else. -/
theorem Native.isServed_of_mem {α : Type} : ∀ (body : Native α) (frame : Frame) (rig : Rig),
    ∀ act ∈ body.acts frame rig, act.IsServed
  | .done _, _, _ => nofun
  | .call service next, frame, rig => by
    intro act hact
    rcases List.mem_cons.mp hact with rfl | hact
    · trivial
    · exact (next _).isServed_of_mem _ _ act hact

/-- The record of a call agrees with the acts of its native code. -/
structure Accounts (policy : RequestPolicy) (acts : List Act) (rig : Rig) (armed : Armed) :
    Prop where
  policy : armed.policy = policy
  tracked : armed.tracked.Perm (held acts)
  requests : armed.requests = requestsOf acts
  nodup : armed.tracked.Nodup
  split : (handedOut acts).Perm (takenBack acts ++ armed.tracked)
  live : ∀ id ∈ armed.tracked, (rig.contexts id).isSome
  /-- What was taken back is in memory only if its address was given to another. -/
  gone : ∀ id ∈ takenBack acts,
    rig.contexts id = none ∨ id ∈ armed.tracked ∨ id ∈ owned acts

namespace Accounts
variable {policy : RequestPolicy} {acts : List Act} {rig : Rig} {armed : Armed}

theorem start (policy : RequestPolicy) (rig : Rig) : Accounts policy [] rig (.start policy) where
  policy := rfl
  tracked := .nil
  requests := rfl
  nodup := .nil
  split := .nil
  live := nofun
  gone := nofun

theorem mem_tracked_iff (h : Accounts policy acts rig armed) (id : ContextId) :
    id ∈ armed.tracked ↔ id ∈ held acts :=
  h.tracked.mem_iff

/-- A change of memory that makes no context and frees none keeps the account. -/
theorem keep (h : Accounts policy acts rig armed) {rig' : Rig}
    (same : ∀ id, (rig'.contexts id).isSome = (rig.contexts id).isSome) :
    Accounts policy acts rig' armed :=
  { h with
    live := fun id hid => by rw [same]; exact h.live id hid
    gone := fun id hid => (h.gone id hid).imp_left fun free => by
      rw [← Option.isNone_iff_eq_none, ← Option.not_isSome, same, free]
      rfl }

theorem aside (h : Accounts policy acts rig armed) {rig' : Rig} (ha : rig.Aside rig') :
    Accounts policy acts rig' armed :=
  h.keep fun id => by rw [ha.contexts]

theorem mem_owned_concat {act : Act} {id : ContextId} (h : id ∈ owned acts) :
    id ∈ owned (acts ++ [act]) := by
  rw [owned_concat]
  exact List.mem_append_left _ h

/-- An act that neither hands out a context, nor takes one, nor makes a request. -/
theorem other (h : Accounts policy acts rig armed) {act : Act} (hout : act.handsOut? = none)
    (hback : act.givesBack? = none) (hreq : act.request? (held acts) = none) :
    Accounts policy (acts ++ [act]) rig armed := by
  have hheld : held (acts ++ [act]) = held acts := by simp [held_concat, Act.hold, hout, hback]
  have hall : handedOut (acts ++ [act]) = handedOut acts := by simp [handedOut_concat, hout]
  have htaken : takenBack (acts ++ [act]) = takenBack acts := by
    simp [takenBack_concat, Act.takesBack?, hback]
  refine ⟨h.policy, ?_, ?_, h.nodup, ?_, h.live, ?_⟩
  · rw [hheld]; exact h.tracked
  · rw [requestsOf_concat, hreq, h.requests]; simp
  · rw [hall, htaken]; exact h.split
  · rw [htaken]; exact fun id hid => (h.gone id hid).imp_right (Or.imp_right mem_owned_concat)

/-! ## One step of native code -/

section Step
variable {frame : Frame}

theorem allocate (h : Accounts policy acts rig armed) (ha : rig.armed = some armed)
    (ht : (rig.tables frame.file).Filled) (hid : UInt32) :
    ∃ armed', (rig.allocate frame.file hid).2.armed = some armed' ∧
      Accounts policy (acts ++ [.served rig frame (.allocate hid)])
        (rig.allocate frame.file hid).2 armed' := by
  have heq := Rig.allocate_of_armed ht ha hid
  have hout : (Act.served rig frame (.allocate hid)).handsOut? = some rig.nextContext := by
    simp [Act.handsOut?, heq]
  have hheld : held (acts ++ [.served rig frame (.allocate hid)]) =
      held acts ++ [rig.nextContext] := by
    simp [held_concat, Act.hold, hout, Act.givesBack?]
  have hall : handedOut (acts ++ [.served rig frame (.allocate hid)]) =
      handedOut acts ++ [rig.nextContext] := by simp [handedOut_concat, hout]
  have htaken : takenBack (acts ++ [.served rig frame (.allocate hid)]) = takenBack acts := by
    simp [takenBack_concat, Act.takesBack?, Act.givesBack?]
  rw [heq]
  refine ⟨_, rfl, h.policy, ?_, ?_, ?_, ?_, ?_, ?_⟩
  · rw [hheld]
    exact h.tracked.append_right _
  · rw [requestsOf_concat, ← h.requests]
    simp [Act.request?]
  · have new : rig.nextContext ∉ armed.tracked := fun hmem =>
      rig.ne_nextContext (h.live _ hmem) rfl
    simpa using h.nodup.concat new
  · rw [hall, htaken, ← List.append_assoc]
    exact h.split.append_right _
  · intro id hmem
    rcases List.mem_append.mp hmem with hmem | hmem
    · have live := h.live id hmem
      exact (congrArg Option.isSome (rig.newContext_of_live _ live)).trans live
    · simp [Rig.newContext, Rig.setContext, List.mem_singleton.mp hmem]
  · intro id hmem
    rw [htaken] at hmem
    by_cases hnew : id = rig.nextContext
    · exact .inr (.inl (List.mem_append_right _ (hnew ▸ .head _)))
    · rcases h.gone id hmem with free | listed | mine
      · exact .inl ((rig.newContext_of_ne _ hnew).trans free)
      · exact .inr (.inl (List.mem_append_left _ listed))
      · exact .inr (.inr (mem_owned_concat mine))

theorem release_tracked (h : Accounts policy acts rig armed) (ha : rig.armed = some armed)
    (ht : (rig.tables frame.file).Filled) {id : ContextId} (hid : id ∈ armed.tracked) :
    ∃ armed', (rig.release frame.file (some id)).armed = some armed' ∧
      Accounts policy (acts ++ [.served rig frame (.release (some id))])
        (rig.release frame.file (some id)) armed' := by
  have hback : (Act.served rig frame (.release (some id))).givesBack? = some id := rfl
  have hout : (Act.served rig frame (.release (some id))).handsOut? = none := rfl
  have hheld : held (acts ++ [.served rig frame (.release (some id))]) = (held acts).erase id := by
    rw [(h.tracked.nodup h.nodup).erase_eq_filter, held_concat, Act.hold, hback, hout,
      Option.toList_none, List.append_nil]
    refine List.filter_congr fun other _ => ?_
    by_cases heq : other = id
    · simp [heq]
    · simp [heq, Ne.symm heq]
  have hall : handedOut (acts ++ [.served rig frame (.release (some id))]) = handedOut acts := by
    simp [handedOut_concat, hout]
  have htaken : takenBack (acts ++ [.served rig frame (.release (some id))]) =
      takenBack acts ++ [id] := by
    have hmem : id ∈ held acts := (h.mem_tracked_iff id).mp hid
    simp [takenBack_concat, Act.takesBack?, hback, hmem, Option.filter]
  have hoff := id.takeOff_perm armed.tracked
  rw [Rig.release_of_tracked ht ha hid]
  refine ⟨_, rfl, h.policy, ?_, ?_, ?_, ?_, ?_, ?_⟩
  · rw [hheld]
    exact hoff.trans (h.tracked.erase id)
  · rw [requestsOf_concat, ← h.requests]
    simp [Act.request?]
  · exact hoff.nodup_iff.mpr (h.nodup.erase id)
  · rw [hall, htaken, List.append_assoc]
    have hcons : armed.tracked.Perm ([id] ++ id.takeOff armed.tracked) :=
      (List.perm_cons_erase hid).trans (hoff.symm.cons id)
    exact h.split.trans (hcons.append_left _)
  · intro other hother
    have hmem : other ∈ armed.tracked.erase id := hoff.mem_iff.mp hother
    rw [h.nodup.mem_erase_iff] at hmem
    simpa [Rig.setContext, hmem.1] using h.live other hmem.2
  · intro other hother
    rw [htaken, List.mem_append, List.mem_singleton] at hother
    by_cases heq : other = id
    · exact .inl (by simp [Rig.setContext, heq])
    · rcases h.gone other (hother.resolve_right heq) with free | listed | mine
      · exact .inl (by simpa [Rig.setContext, heq] using free)
      · exact .inr (.inl (hoff.mem_iff.mpr ((List.mem_erase_of_ne heq).mpr listed)))
      · exact .inr (.inr (mem_owned_concat mine))

theorem release_stray (h : Accounts policy acts rig armed) (ha : rig.armed = some armed)
    (ht : (rig.tables frame.file).Filled) {id : ContextId} (hid : id ∉ armed.tracked) :
    ∃ armed', (rig.release frame.file (some id)).armed = some armed' ∧
      Accounts policy (acts ++ [.served rig frame (.release (some id))])
        (rig.release frame.file (some id)) armed' := by
  have hback : (Act.served rig frame (.release (some id))).givesBack? = some id := rfl
  have hout : (Act.served rig frame (.release (some id))).handsOut? = none := rfl
  have hmem : id ∉ held acts := fun hmem => hid ((h.mem_tracked_iff id).mpr hmem)
  have hheld : held (acts ++ [.served rig frame (.release (some id))]) = held acts := by
    rw [held_concat, Act.hold, hback, hout, Option.toList_none, List.append_nil,
      List.filter_eq_self]
    intro other hother
    simpa using fun he : id = other => hmem (he ▸ hother)
  have hall : handedOut (acts ++ [.served rig frame (.release (some id))]) = handedOut acts := by
    simp [handedOut_concat, hout]
  have htaken : takenBack (acts ++ [.served rig frame (.release (some id))]) = takenBack acts := by
    simp [takenBack_concat, Act.takesBack?, hback, hmem, Option.filter]
  rw [Rig.release_of_stray ht ha hid]
  refine ⟨armed, ha, h.policy, ?_, ?_, h.nodup, ?_, h.live, ?_⟩
  · rw [hheld]
    exact h.tracked
  · rw [requestsOf_concat, ← h.requests]
    simp [Act.request?]
  · rw [hall, htaken]
    exact h.split
  · rw [htaken]
    exact fun id hid => (h.gone id hid).imp_right (Or.imp_right mem_owned_concat)

theorem trackedIndex_eq (h : Accounts policy acts rig armed) (ctx : ContextRef) :
    rig.trackedIndex armed ctx =
      (ctx.filter fun id => id ∈ held acts).bind fun id =>
        (rig.contexts id).map HookContext.index := by
  cases ctx with
  | none => rfl
  | some id =>
    have hiff := h.mem_tracked_iff id
    by_cases hmem : id ∈ held acts
    · simp [Rig.trackedIndex, hiff, hmem, Option.filter]
    · simp [Rig.trackedIndex, hiff, hmem, Option.filter]

theorem request (h : Accounts policy acts rig armed) (ha : rig.armed = some armed)
    (ht : (rig.tables frame.file).Filled) (ctx : ContextRef) (data : Option Bytes) (length : Nat)
    (reportType requestKind : Int32) :
    ∃ armed',
      (rig.request frame.file ctx data length reportType requestKind).2.armed = some armed' ∧
      Accounts policy
        (acts ++ [.served rig frame (.request ctx data length reportType requestKind)])
        (rig.request frame.file ctx data length reportType requestKind).2 armed' := by
  rw [Rig.request_of_armed ctx data length reportType requestKind ht ha]
  refine ⟨_, rfl, h.policy, ?_, ?_, h.nodup, ?_, h.live, ?_⟩
  · simpa [held_concat, Act.hold, Act.handsOut?, Act.givesBack?] using h.tracked
  · rw [requestsOf_concat, ← h.requests]
    simp [Act.request?, h.trackedIndex_eq]
  · simpa [handedOut_concat, takenBack_concat, Act.handsOut?, Act.takesBack?, Act.givesBack?]
      using h.split
  · have htaken : takenBack (acts ++ [.served rig frame
        (.request ctx data length reportType requestKind)]) = takenBack acts := by
      simp [takenBack_concat, Act.takesBack?, Act.givesBack?]
    rw [htaken]
    exact fun id hid => (h.gone id hid).imp_right (Or.imp_right mem_owned_concat)

/-- A context that the code makes itself is not on the list. -/
theorem ownContext (h : Accounts policy acts rig armed) (ctx : HookContext) :
    Accounts policy (acts ++ [.served rig frame (.ownContext ctx)]) (rig.newContext ctx).2 armed := by
  have same : Accounts policy (acts ++ [.served rig frame (.ownContext ctx)]) rig armed :=
    h.other rfl rfl rfl
  refine { same with live := fun id hid => ?_, gone := fun id hid => ?_ }
  · rw [rig.newContext_of_live ctx (h.live id hid)]
    exact h.live id hid
  · by_cases hnew : id = rig.nextContext
    · refine .inr (.inr ?_)
      rw [owned_concat, hnew]
      exact List.mem_append_right _ (.head _)
    · exact (same.gone id hid).imp_left (rig.newContext_of_ne ctx hnew).trans

theorem serve (h : Accounts policy acts rig armed) (ha : rig.armed = some armed)
    (ht : (rig.tables frame.file).Filled) (service : Service) :
    ∃ armed', (rig.serve frame service).2.2.armed = some armed' ∧
      Accounts policy (acts ++ [.served rig frame service]) (rig.serve frame service).2.2
        armed' := by
  cases service with
  | allocate hid => exact h.allocate ha ht hid
  | request ctx data length reportType requestKind =>
    exact h.request ha ht ctx data length reportType requestKind
  | release ctx =>
    cases ctx with
    | none => exact ⟨armed, ha, h.other rfl rfl rfl⟩
    | some id =>
      by_cases hid : id ∈ armed.tracked
      · exact h.release_tracked ha ht hid
      · exact h.release_stray ha ht hid
  | ownContext ctx => exact ⟨armed, ha, h.ownContext ctx⟩
  | writeContext id ctx =>
    refine ⟨armed, ha, (h.other rfl rfl rfl).keep fun other => ?_⟩
    by_cases heq : other = id
    · simp [Rig.serve, Rig.setContext, heq]
    · simp [Rig.serve, Rig.setContext, heq]
  | write window bytes => exact ⟨armed, ha, (h.other rfl rfl rfl).keep fun _ => rfl⟩
  | print text => exact ⟨armed, ha, (h.other rfl rfl rfl).keep fun _ => rfl⟩
  | getData offset size => exact ⟨armed, ha, h.other rfl rfl rfl⟩
  | read window size => exact ⟨armed, ha, h.other rfl rfl rfl⟩
  | given => exact ⟨armed, ha, h.other rfl rfl rfl⟩
  | readContext id => exact ⟨armed, ha, h.other rfl rfl rfl⟩
  | readArgs => exact ⟨armed, ha, h.other rfl rfl rfl⟩
  | writeArgs args => exact ⟨armed, ha, h.other rfl rfl rfl⟩

end Step

end Accounts

/-! ## Runs of native code -/

/-- What a step hands out was not in memory. -/
theorem Act.free_of_handsOut? {rig : Rig} {frame : Frame} {service : Service} {id : ContextId}
    (h : (Act.served rig frame service).handsOut? = some id) : rig.contexts id = none := by
  cases service with
  | allocate hid =>
    simp only [handsOut?, Rig.allocate] at h
    split at h
    · split at h <;> cases h
      exact rig.nextContext_free
    · cases h
  | _ => cases h

/-- A chronicle whose acts are all steps of the native code itself. -/
inductive Solo : FileId → Rig → List Act → Rig → Prop
  | done {file : FileId} {r t : Rig} (aside : r.Aside t) : Solo file r [] t
  | served {file : FileId} {r s t : Rig} {acts : List Act} (aside : r.Aside s) (frame : Frame)
      (service : Service) (own : frame.file = file)
      (rest : Solo file (s.serve frame service).2.2 acts t) :
      Solo file r (.served s frame service :: acts) t

theorem Chronicle.solo {file : FileId} {r t : Rig} {acts : List Act}
    (h : Chronicle file r acts t) : (∀ act ∈ acts, act.IsServed) → Solo file r acts t := by
  induction h with
  | done aside => exact fun _ => .done aside
  | served aside frame service own _ ih =>
    exact fun hs => .served aside frame service own (ih fun act hact => hs act (.tail _ hact))
  | installed => exact fun hs => (hs _ (.head _)).elim
  | called => exact fun hs => (hs _ (.head _)).elim
  | ran => exact fun hs => (hs _ (.head _)).elim
  | threaded => exact fun hs => (hs _ (.head _)).elim

namespace Solo
variable {file : FileId} {policy : RequestPolicy} {r t : Rig} {acts : List Act}

theorem tables (h : Solo file r acts t) : t.tables = r.tables := by
  induction h with
  | done aside => exact aside.tables
  | served aside frame service _ _ ih => rw [ih, Rig.serve_tables, aside.tables]

/-- As long as native code takes steps of its own only, it keeps the account of its call. -/
theorem accounts (h : Solo file r acts t) :
    ∀ {pre : List Act} {armed : Armed}, (r.tables file).Filled → r.armed = some armed →
      Accounts policy pre r armed →
      ∃ armed', t.armed = some armed' ∧ Accounts policy (pre ++ acts) t armed' := by
  induction h with
  | done aside =>
    intro pre armed _ ha h
    refine ⟨armed, aside.armed.trans ha, ?_⟩
    rw [List.append_nil]
    exact h.aside aside
  | @served r s t acts aside frame service own _ ih =>
    intro pre armed ht ha h
    subst own
    have hts : (s.tables frame.file).Filled := by rw [aside.tables]; exact ht
    obtain ⟨armed', ha', h'⟩ := (h.aside aside).serve (aside.armed.trans ha) hts service
    have hrest : ((s.serve frame service).2.2.tables frame.file).Filled := by
      rw [Rig.serve_tables]; exact hts
    obtain ⟨last, hlast, account⟩ := ih hrest ha' h'
    refine ⟨last, hlast, ?_⟩
    rw [List.append_cons]
    exact account

end Solo

theorem Chronicle.frame_file {file : FileId} {r t : Rig} {acts : List Act}
    (h : Chronicle file r acts t) {rig : Rig} {frame : Frame} {service : Service} :
    Act.served rig frame service ∈ acts → frame.file = file := by
  induction h with
  | done => exact nofun
  | served _ _ _ own _ ih =>
    intro hact
    rcases List.mem_cons.mp hact with heq | hact
    · cases heq
      exact own
    · exact ih hact
  | installed _ _ _ _ _ ih => exact fun hact => ih ((List.mem_cons.mp hact).resolve_left nofun)
  | called _ _ _ _ _ _ _ _ ih =>
    exact fun hact => ih ((List.mem_cons.mp hact).resolve_left nofun)
  | ran _ _ _ _ ih => exact fun hact => ih ((List.mem_cons.mp hact).resolve_left nofun)
  | threaded _ _ _ _ ih => exact fun hact => ih ((List.mem_cons.mp hact).resolve_left nofun)

/-! ## Calls -/

section
variable {file : FileId} {r last : Rig} {policy : RequestPolicy}

/-- Up to its first call, native code keeps its account. -/
theorem Chronicle.accounts_before {pre post : List Act} (h : Chronicle file r (pre ++ post) last)
    (hpre : ∀ act ∈ pre, act.IsServed) (ht : (r.tables file).Filled)
    (ha : r.armed = some (.start policy)) :
    ∃ armed, (stateAt last post).armed = some armed ∧
      Accounts policy pre (stateAt last post) armed ∧
      ((stateAt last post).tables file).Filled := by
  obtain ⟨armed, hlast, account⟩ := (h.split.1.solo hpre).accounts ht ha (.start policy r)
  refine ⟨armed, hlast, account, ?_⟩
  rw [(h.split.1.solo hpre).tables]
  exact ht

/-- Up to its first call, native code finds its record and its table. -/
theorem Chronicle.armed_before {pre post : List Act} (h : Chronicle file r (pre ++ post) last)
    (hpre : ∀ act ∈ pre, act.IsServed) (ht : (r.tables file).Filled)
    (ha : r.armed = some (.start policy)) {rig : Rig} {frame : Frame} {service : Service}
    (hact : Act.served rig frame service ∈ pre) :
    ∃ armed, rig.armed = some armed ∧ armed.policy = policy ∧ (rig.tables frame.file).Filled := by
  have own : frame.file = file := h.frame_file (List.mem_append_left _ hact)
  obtain ⟨front, back, rfl⟩ := List.append_of_mem hact
  rw [List.append_assoc] at h
  have hfront : ∀ act ∈ front, act.IsServed := (List.forall_mem_append.mp hpre).1
  obtain ⟨armed, harmed, account, filled⟩ := h.accounts_before hfront ht ha
  rw [own]
  exact ⟨armed, harmed, account.policy, filled⟩

end

/-- Wherever a call is stopped that calls nothing itself, its account is kept so far. -/
theorem Session.accounts_before (session : Session) (module : TestModule) (call : Call)
    (script : Option Script) (own : ∀ act ∈ session.callActs module call script, act.IsServed)
    {pre post : List Act} (h : session.callActs module call script = pre ++ post) :
    let rig := stateAt (session.ended module call script).session.rig post
    ∃ armed, rig.armed = some armed ∧ Accounts call.policy pre rig armed ∧
      (rig.tables module.file).Filled := by
  have whole := session.chronicle_ended (Script.chronicled script) module call
  rw [h] at whole own
  have served : ∀ act ∈ pre, act.IsServed := (List.forall_mem_append.mp own).1
  exact whole.accounts_before served (call.start_filled module session.rig)
    (call.start_armed module session.rig)

/-- Each step of such a call finds the account of the acts before it. -/
theorem Session.account_of_served (session : Session) (module : TestModule) (call : Call)
    (script : Option Script) (own : ∀ act ∈ session.callActs module call script, act.IsServed)
    {pre post : List Act} {before : Rig} {frame : Frame} {service : Service}
    (split : session.callActs module call script = pre ++ .served before frame service :: post) :
    ∃ armed, before.armed = some armed ∧ Accounts call.policy pre before armed ∧
      (before.tables frame.file).Filled := by
  have member : .served before frame service ∈ session.callActs module call script :=
    split ▸ List.mem_append_right _ (.head _)
  have place : frame.file = module.file :=
    (session.chronicle_ended (Script.chronicled script) module call).frame_file member
  rw [place]
  exact session.accounts_before module call script own split

end HidRig
