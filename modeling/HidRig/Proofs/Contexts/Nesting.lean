import HidRig.Proofs.Contexts.Account

/-! # Calls inside of calls

A thread keeps one record. A call that native code makes of another module takes the place of the
record of its own call, and nothing restores it.

* `Undisturbed`: what a call promises about its contexts and requests.
* `EmptyHanded`: native code keeps nothing across the calls that it makes.
* `Session.undisturbed_iff`: these are the same.
-/

namespace HidRig

/-- The act is a call of a module. -/
def Act.IsCalled : Act → Prop
  | called .. => True
  | _ => False

/-- What a call promises, over the acts of its native code, the state in which that ended, what was
reported of it and the state after the call. -/
structure Undisturbed (policy : RequestPolicy) (acts : List Act) (last : Rig)
    (report : Rig.CallReport) (after : Rig) : Prop where
  /-- A context is on the record until the code gives it back. -/
  tracked : ∀ pre post, acts = pre ++ post → ∀ id ∈ held pre,
    ∃ armed, (stateAt last post).armed = some armed ∧ id ∈ armed.tracked
  /-- A context that is asked for is handed out. -/
  allocated : ∀ rig frame hid, Act.served rig frame (.allocate hid) ∈ acts →
    (rig.allocate frame.file hid).1 ≠ none
  /-- Requests are answered as the call was told to. -/
  answered : ∀ rig frame ctx data length reportType requestKind,
    Act.served rig frame (.request ctx data length reportType requestKind) ∈ acts →
    (rig.request frame.file ctx data length reportType requestKind).1 =
      Rig.answer policy data length
  /-- The requests of the code are reported, in order. -/
  recorded : report.requests = requestsOf acts
  /-- The contexts that the code kept are counted. -/
  counted : report.leaked = (held acts).length
  /-- The contexts that the code kept are freed. -/
  freed : ∀ id ∈ held acts, after.contexts id = none

/-- Native code holds no context when it calls a module, asks for none after that, and makes no
request at all if it calls one. -/
def EmptyHanded (acts : List Act) : Prop :=
  ∀ pre before callee call inner post, acts = pre ++ .called before callee call inner :: post →
    held pre = [] ∧ requestsOf acts = [] ∧
      ∀ rig frame hid, Act.served rig frame (.allocate hid) ∉ post

/-! ## Without a record -/

theorem Rig.allocate_fst_of_idle {rig : Rig} (h : rig.armed = none) (file : FileId) (hid : UInt32) :
    (rig.allocate file hid).1 = none := by
  simp only [allocate, h]
  split <;> rfl

namespace Chronicle
variable {file : FileId} {r t : Rig} {acts : List Act}

theorem idle_of_called {before : Rig} {callee : TestModule} {call : Call} {inner : List Act}
    (h : Chronicle file r (.called before callee call inner :: acts) t) : t.armed = none := by
  cases h with
  | called _ _ _ code frame _ rest => exact rest.idle (call.finish_armed ..)

/-- Nothing is handed out on a thread that keeps no record. -/
theorem handsOut?_of_idle (h : Chronicle file r acts t) :
    r.armed = none → ∀ act ∈ acts, act.handsOut? = none := by
  induction h with
  | done => exact fun _ => nofun
  | @served _ r s t acts aside frame service _ _ ih =>
    intro hr act hact
    have hs : s.armed = none := aside.armed.trans hr
    rcases List.mem_cons.mp hact with rfl | hact
    · cases service with
      | allocate hid => exact Rig.allocate_fst_of_idle hs frame.file hid
      | _ => rfl
    · exact ih (Rig.serve_idle hs frame service) act hact
  | installed aside place table installs _ ih =>
    intro hr act hact
    rcases List.mem_cons.mp hact with rfl | hact
    · rfl
    · exact ih (installs.armed.trans (aside.armed.trans hr)) act hact
  | called aside module call code frame _ _ _ ih =>
    intro _ act hact
    rcases List.mem_cons.mp hact with rfl | hact
    · rfl
    · exact ih (call.finish_armed ..) act hact
  | ran aside body _ _ ih =>
    intro hr act hact
    rcases List.mem_cons.mp hact with rfl | hact
    · rfl
    · exact ih (body.idle (aside.armed.trans hr)) act hact
  | threaded aside body _ _ ih =>
    intro hr act hact
    rcases List.mem_cons.mp hact with rfl | hact
    · rfl
    · exact ih (aside.armed.trans hr) act hact

theorem handsOut?_of_called {before : Rig} {callee : TestModule} {call : Call} {inner : List Act}
    (h : Chronicle file r (.called before callee call inner :: acts) t) :
    ∀ act ∈ acts, act.handsOut? = none := by
  cases h with
  | called _ _ _ code frame _ rest => exact rest.handsOut?_of_idle (call.finish_armed ..)

end Chronicle

/-! ## What native code keeps -/

theorem held_append_eq_nil {pre : List Act} (h : held pre = []) (post : List Act) :
    (∀ act ∈ post, act.handsOut? = none) → held (pre ++ post) = [] := by
  induction post using List.reverseRecOn with
  | nil =>
    intro _
    rw [List.append_nil]
    exact h
  | append_singleton post act ih =>
    intro hout
    have front := ih (List.forall_mem_append.mp hout).1
    have last : act.handsOut? = none := hout act (by simp)
    rw [← List.append_assoc, held_concat, front, Act.hold, last]
    rfl

/-- Where no request is noted, none was made. -/
theorem not_request_of_noted {ids : List ContextId} {acts : List Act} {rig : Rig} {frame : Frame}
    {ctx : ContextRef} {data : Option Bytes} {length : Nat} {reportType requestKind : Int32} :
    noted Act.request? ids acts = [] →
      Act.served rig frame (.request ctx data length reportType requestKind) ∉ acts := by
  induction acts generalizing ids with
  | nil => exact fun _ => nofun
  | cons first acts ih =>
    intro h hact
    rw [noted, List.append_eq_nil_iff] at h
    rcases List.mem_cons.mp hact with rfl | hact
    · exact absurd h.1 (List.cons_ne_nil _ _)
    · exact ih h.2 hact

/-- Native code either calls no module, or there is a first call. -/
theorem served_or_called {acts : List Act} (own : ∀ act ∈ acts, act.IsServed ∨ act.IsCalled) :
    (∀ act ∈ acts, act.IsServed) ∨
      ∃ pre before callee call inner post,
        acts = pre ++ .called before callee call inner :: post ∧ ∀ act ∈ pre, act.IsServed := by
  induction acts with
  | nil => exact .inl nofun
  | cons first acts ih =>
    cases first with
    | served rig frame service =>
      rcases ih fun act hact => own act (.tail _ hact) with
        hserved | ⟨pre, before, callee, call, inner, post, rfl, hpre⟩
      · refine .inl fun act hact => ?_
        rcases List.mem_cons.mp hact with rfl | hact
        · trivial
        · exact hserved act hact
      · refine .inr ⟨_ :: pre, before, callee, call, inner, post, rfl, fun act hact => ?_⟩
        rcases List.mem_cons.mp hact with rfl | hact
        · trivial
        · exact hpre act hact
    | called before callee call inner => exact .inr ⟨[], _, _, _, _, acts, rfl, nofun⟩
    | installed => exact (own _ (.head _)).elim False.elim False.elim
    | ran => exact (own _ (.head _)).elim False.elim False.elim
    | threaded => exact (own _ (.head _)).elim False.elim False.elim

/-! ## The two directions -/

section
variable {file : FileId} {r last after : Rig} {acts : List Act} {policy : RequestPolicy}

theorem Undisturbed.emptyHanded (h : Chronicle file r acts last)
    (promised : Undisturbed policy acts last (last.disarm file).1 after) : EmptyHanded acts := by
  rintro pre before callee call inner post rfl
  have rest := h.split.2
  have idle : last.armed = none := rest.idle_of_called
  have split : pre ++ .called before callee call inner :: post =
      (pre ++ [.called before callee call inner]) ++ post := by simp
  have mid : (stateAt last post).armed = none := by
    rw [split] at h
    exact h.split.1.split.2.idle_of_called
  have tail : Chronicle file (stateAt last post) post last := by
    rw [split] at h
    exact h.split.2
  refine ⟨?_, ?_, ?_⟩
  · -- what was held before the call is on no record after it
    refine List.eq_nil_iff_forall_not_mem.mpr fun id hid => ?_
    have hheld : id ∈ held (pre ++ [.called before callee call inner]) := by
      rw [mem_held_concat]
      exact .inl ⟨hid, nofun⟩
    obtain ⟨armed, ha, -⟩ := promised.tracked _ post split id hheld
    rw [mid] at ha
    cases ha
  · rw [← promised.recorded, Rig.disarm_of_idle idle]
  · intro rig frame hid hact
    have granted := promised.allocated rig frame hid
      (List.mem_append_right _ (List.mem_cons_of_mem _ hact))
    exact granted (tail.handsOut?_of_idle mid _ hact)

/-- A call whose native code calls nothing keeps its promises. -/
theorem Chronicle.undisturbed_of_served (h : Chronicle file r acts last)
    (hserved : ∀ act ∈ acts, act.IsServed) (ht : (r.tables file).Filled)
    (ha : r.armed = some (.start policy))
    (freed : ∀ id, (last.disarm file).2.contexts id = none → after.contexts id = none) :
    Undisturbed policy acts last (last.disarm file).1 after := by
  have whole : Chronicle file r (acts ++ []) last := by rw [List.append_nil]; exact h
  obtain ⟨armed, harmed, account, -⟩ := whole.accounts_before hserved ht ha
  have ends : last.disarm file = _ := Rig.disarm_of_armed harmed
  refine ⟨?_, ?_, ?_, ?_, ?_, ?_⟩
  · rintro pre post rfl id hid
    have hpre : ∀ act ∈ pre, act.IsServed := (List.forall_mem_append.mp hserved).1
    obtain ⟨armed, harmed, account, -⟩ := h.accounts_before hpre ht ha
    exact ⟨armed, harmed, (account.mem_tracked_iff id).mpr hid⟩
  · intro rig frame hid hact
    obtain ⟨armed, harmed, -, filled⟩ := whole.armed_before hserved ht ha hact
    rw [Rig.allocate_of_armed filled harmed]
    exact Option.some_ne_none _
  · intro rig frame ctx data length reportType requestKind hact
    obtain ⟨armed, harmed, rfl, filled⟩ := whole.armed_before hserved ht ha hact
    rw [Rig.request_of_armed ctx data length reportType requestKind filled harmed]
  · rw [ends]
    exact account.requests
  · rw [ends]
    exact account.tracked.length_eq
  · intro id hid
    have hmem : id ∈ armed.tracked := (account.mem_tracked_iff id).mpr hid
    refine freed id ?_
    rw [ends]
    simp [Rig.reportAll, Rig.freeContexts, hmem]

theorem EmptyHanded.undisturbed (h : Chronicle file r acts last) (empty : EmptyHanded acts)
    (own : ∀ act ∈ acts, act.IsServed ∨ act.IsCalled) (ht : (r.tables file).Filled)
    (ha : r.armed = some (.start policy))
    (freed : ∀ id, (last.disarm file).2.contexts id = none → after.contexts id = none) :
    Undisturbed policy acts last (last.disarm file).1 after := by
  rcases served_or_called own with
    hserved | ⟨pre, before, callee, call, inner, post, rfl, hpre⟩
  · exact h.undisturbed_of_served hserved ht ha freed
  obtain ⟨hheld, hrequests, hallocate⟩ := empty pre before callee call inner post rfl
  have rest := h.split.2
  have idle : last.armed = none := rest.idle_of_called
  have hout : ∀ act ∈ Act.called before callee call inner :: post, act.handsOut? = none := by
    intro act hact
    rcases List.mem_cons.mp hact with rfl | hact
    · rfl
    · exact rest.handsOut?_of_called act hact
  have nothing : held (pre ++ .called before callee call inner :: post) = [] :=
    held_append_eq_nil hheld _ hout
  refine ⟨?_, ?_, ?_, ?_, ?_, ?_⟩
  · intro front back heq id hid
    rcases List.append_eq_append_iff.mp heq with ⟨x, rfl, hpost⟩ | ⟨x, rfl, rfl⟩
    · -- stopped after the first call, where nothing is held any more
      have hx : ∀ act ∈ x, act.handsOut? = none := by
        intro act hact
        refine hout act ?_
        rw [hpost]
        exact List.mem_append_left _ hact
      rw [held_append_eq_nil hheld x hx] at hid
      cases hid
    · have hfront : ∀ act ∈ front, act.IsServed := (List.forall_mem_append.mp hpre).1
      rw [List.append_assoc] at h
      obtain ⟨armed, harmed, account, -⟩ := h.accounts_before hfront ht ha
      exact ⟨armed, harmed, (account.mem_tracked_iff id).mpr hid⟩
  · intro rig frame hid hact
    rcases List.mem_append.mp hact with hact | hact
    · obtain ⟨armed, harmed, -, filled⟩ := h.armed_before hpre ht ha hact
      rw [Rig.allocate_of_armed filled harmed]
      exact Option.some_ne_none _
    · exact absurd ((List.mem_cons.mp hact).resolve_left nofun) (hallocate rig frame hid)
  · intro rig frame ctx data length reportType requestKind hact
    exact absurd hact (not_request_of_noted hrequests)
  · rw [Rig.disarm_of_idle idle]
    exact hrequests.symm
  · rw [Rig.disarm_of_idle idle, nothing]
    rfl
  · rw [nothing]
    exact nofun

end

/-! ## Hooks -/

/-- A hook whose native code calls modules is undisturbed by that if its code calls with empty
hands, and only then. What is reported of the call is what a hook that succeeds gives back. -/
theorem Session.undisturbed_iff (session : Session) (module : TestModule) (role : Role)
    (data : Option Bytes) (options : InvokeOptions) (script : Option Script)
    (payload : Option Payload) (entry : EntryPoint)
    (prepared : module.prepare role data = .ok (payload, entry))
    (own : ∀ act ∈ session.callActs module (.hook role payload entry options) script,
      act.IsServed ∨ act.IsCalled) :
    let call := Call.hook role payload entry options
    let acts := session.callActs module call script
    let ended := session.ended module call script
    let report := (ended.session.rig.disarm module.file).1
    let outcome := session.hook module role data options (script.map Script.run)
    (Undisturbed options.policy acts ended.session.rig report outcome.2.2.rig ↔
      EmptyHanded acts) ∧
    (ended.code = 0 → ∃ invocation, outcome.1 = .ok invocation ∧
      invocation.requests = report.requests ∧ invocation.leaked = report.leaked) ∧
    (ended.code ≠ 0 → outcome.1 = .error (.returnCode module.name (.hook role) ended.code)) := by
  intro call acts ended report outcome
  have h := session.chronicle_ended (Script.chronicled script) module call
  have freed : ∀ id, (ended.session.rig.disarm module.file).2.contexts id = none →
      outcome.2.2.rig.contexts id = none := by
    intro id hid
    have hafter : outcome.2.2 = session.called module call script := by
      simp only [outcome, session.hook_eq module role data options script prepared]
      rfl
    rw [hafter, Session.called, Call.finish_contexts, hid, ite_self]
  refine ⟨⟨fun promised => promised.emptyHanded h, fun empty => ?_⟩, fun hcode => ?_,
    session.hook_of_code_ne_zero module role data options script prepared⟩
  · exact empty.undisturbed h own (call.start_filled module session.rig)
      (call.start_armed module session.rig) freed
  · obtain ⟨invocation, hout, hreport⟩ :=
      session.hook_of_code_zero module role data options script prepared hcode
    exact ⟨invocation, hout, congrArg Rig.CallReport.requests hreport,
      congrArg Rig.CallReport.leaked hreport⟩

/-! ## Two hooks that probe a module -/

namespace Nesting

def session : Session :=
  { Session.start Disk.empty [] fun _ => none with handles := [("b", .uniform ⟨2⟩ .scripted)] }

def module : TestModule := .uniform ⟨1⟩ .scripted

def options : InvokeOptions := { policy := { result := 7 } }

def call : Call := .hook .deviceEvent (some ⟨[1, 2, 3, 4], 4⟩) .scripted options

/-- Gives its context back before it probes the module. -/
def careful : Script :=
  .call (.allocate 5) fun ctx =>
    .call (.release ctx) fun _ =>
      Script.nested (.probe "b" (some .empty)) none .idle

/-- Keeps its context over the probe, then asks for one more and makes a request. -/
def careless : Script :=
  .ofList [Script.allocate 5 "kept", Script.nested (.probe "b" (some .empty)) none,
    Script.allocate 6 "late", Script.request (.named "kept") (some [10]) 1 2 1]

end Nesting

open Nesting in
theorem Session.undisturbed_careful :
    let acts := session.callActs module call (some careful)
    let ended := session.ended module call (some careful)
    let report := (ended.session.rig.disarm module.file).1
    let outcome := session.hook module .deviceEvent (some [1, 2, 3, 4]) options (some careful.run)
    (∀ act ∈ acts, act.IsServed ∨ act.IsCalled) ∧ EmptyHanded acts ∧
      Undisturbed options.policy acts ended.session.rig report outcome.2.2.rig := by
  intro acts ended report outcome
  obtain ⟨r, f, s, g, ctx, before, callee, probe, inner, hacts⟩ :
      ∃ r f s g ctx before callee probe inner,
        acts = [.served r f (.allocate 5), .served s g (.release ctx),
          .called before callee probe inner] :=
    ⟨_, _, _, _, _, _, _, _, _, rfl⟩
  have own : ∀ act ∈ acts, act.IsServed ∨ act.IsCalled := by
    rw [hacts]
    simp [Act.IsServed, Act.IsCalled]
  have nothing : held (acts.take 2) = [] ∧ requestsOf acts = [] := ⟨rfl, rfl⟩
  have empty : EmptyHanded acts := by
    rintro pre before callee call inner post heq
    rw [hacts] at heq nothing ⊢
    rcases pre with _ | ⟨_, _ | ⟨_, _ | ⟨_, pre⟩⟩⟩
    · cases heq
    · cases heq
    · cases heq
      exact ⟨nothing.1, nothing.2, fun _ _ _ => nofun⟩
    · exact absurd (congrArg List.length heq) (by simp)
  have iff := session.undisturbed_iff module .deviceEvent (some [1, 2, 3, 4]) options (some careful)
    _ _ rfl own
  exact ⟨own, empty, iff.1.mpr empty⟩

open Nesting in
/-- The context that the careless hook keeps is not counted, and its request is not reported. -/
theorem Session.disturbed_careless :
    let acts := session.callActs module call (some careless)
    let ended := session.ended module call (some careless)
    let report := (ended.session.rig.disarm module.file).1
    let outcome := session.hook module .deviceEvent (some [1, 2, 3, 4]) options (some careless.run)
    (∀ act ∈ acts, act.IsServed ∨ act.IsCalled) ∧ touches module.file acts = [] ∧
      (∃ invocation, outcome.1 = .ok invocation ∧ invocation.leaked = 0 ∧
        invocation.requests = []) ∧
      (held acts).length = 1 ∧ (requestsOf acts).length = 1 ∧
      ¬ Undisturbed options.policy acts ended.session.rig report outcome.2.2.rig := by
  intro acts ended report outcome
  have kept : (held acts).length = 1 := by rfl
  have counted : report.leaked = 0 := by rfl
  refine ⟨?_, by rfl, ⟨_, rfl, rfl, rfl⟩, kept, by rfl, fun promised => ?_⟩
  · obtain ⟨r, f, s, g, id, before, callee, probe, inner, t, h, u, k, ctx, hacts⟩ :
        ∃ r f s g id before callee probe inner t h u k ctx,
          acts = [.served r f (.allocate 5), .served s g (.readContext id),
            .called before callee probe inner, .served t h (.allocate 6),
            .served u k (.request ctx (some [10]) 1 2 1)] :=
      ⟨_, _, _, _, _, _, _, _, _, _, _, _, _, _, rfl⟩
    rw [hacts]
    simp [Act.IsServed, Act.IsCalled]
  · have h := promised.counted
    rw [kept, counted] at h
    cases h

end HidRig
