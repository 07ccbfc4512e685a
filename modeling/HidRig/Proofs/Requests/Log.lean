import HidRig.Proofs.Contexts.Account

/-! # The log of requests

While native code runs undisturbed, the rig keeps a log of the requests that it makes, and answers
each of them by the options of the call alone.

* `RequestRecord.Tells`: what a record says of the request that it was made for.
* `Logs`: a log has a record for every request, in order.
* `RequestPolicy.Answers`: how a request is answered.
* `Session.requests_logged`: the log of a hook, and the answers that its code got.
-/

namespace HidRig

def Act.isRequest : Act → Bool
  | .served _ _ (.request ..) => true
  | _ => false

/-- What a record says of a request that is made in the state `before`, after some acts. -/
structure RequestRecord.Tells (record : RequestRecord) (acts : List Act) (before : Rig)
    (ctx : ContextRef) (data : Option Bytes) (length : Nat) (reportType requestKind : Int32) :
    Prop where
  rawType : record.rawType = reportType
  rawKind : record.rawKind = requestKind
  /-- The bytes as they came. There are none at a null pointer. -/
  data : record.data = (data.getD []).take length
  /-- A context that the code holds is told by the index that it has at that moment. -/
  held : ∀ id, ctx = some id → Outstanding acts id →
    ∃ context, before.contexts id = some context ∧ record.hid = some context.index
  /-- No other context is told. -/
  other : (∀ id, ctx = some id → ¬ Outstanding acts id) → record.hid = none

/-- A log has one record for each request of some acts, in order. -/
structure Logs (acts : List Act) (log : List RequestRecord) : Prop where
  length : log.length = acts.countP Act.isRequest
  record : ∀ pre before frame ctx data length reportType requestKind post,
    acts = pre ++ .served before frame (.request ctx data length reportType requestKind) :: post →
    ∃ record, log[pre.countP Act.isRequest]? = some record ∧
      record.Tells pre before ctx data length reportType requestKind

/-- How a request over the first `length` bytes of some data is answered. -/
structure RequestPolicy.Answers (policy : RequestPolicy) (data : Option Bytes) (length : Nat)
    (answer : Int32 × Option Bytes) : Prop where
  /-- Without a reply the data stay, and the code is the one that was set. -/
  settled : policy.reply = none → answer = (policy.result, data)
  /-- The start of the reply takes the place of as many bytes, whose number is the code. -/
  replied : ∀ reply, policy.reply = some reply →
    let n := min reply.length ((data.getD []).take length).length
    answer.1.toInt = (min n 2147483647 : Nat) ∧
      answer.2 = data.map fun bytes => reply.take n ++ bytes.drop n

/-! ## Answers -/

theorem RequestPolicy.answers (policy : RequestPolicy) (data : Option Bytes) (length : Nat) :
    policy.Answers data length (Rig.answer policy data length) := by
  constructor
  · intro hreply
    cases data with
    | none => simp [Rig.answer, RequestPolicy.answer, hreply]
    | some bytes => simp [Rig.answer, RequestPolicy.answer, hreply, Rig.requestBuffer]
  · intro reply hreply n
    have signed : min n Abi.maxSigned < 2 ^ 31 :=
      Nat.lt_of_le_of_lt (Nat.min_le_right _ _) (by decide)
    constructor
    · simp only [Rig.answer, RequestPolicy.answer, hreply]
      exact Int32.toInt_ofNat_of_lt signed
    · cases data with
      | none => simp [Rig.answer]
      | some bytes =>
        have inside : n ≤ (bytes.take length).length := Nat.min_le_right _ _
        have rest : (bytes.take length).drop n ++ bytes.drop length = bytes.drop n := by
          rw [← List.drop_append_of_le_length inside, List.take_append_drop]
        simp only [Rig.answer, RequestPolicy.answer, hreply, Rig.requestBuffer, Option.map_some,
          Option.getD_some, List.append_assoc]
        exact congrArg (fun tail => some (reply.take n ++ tail)) rest

/-! ## Records -/

theorem Act.length_request? (ids : List ContextId) (act : Act) :
    (act.request? ids).toList.length = if act.isRequest then 1 else 0 := by
  cases act with
  | served before frame service => cases service <;> rfl
  | _ => rfl

theorem length_noted_request (ids : List ContextId) (acts : List Act) :
    (noted Act.request? ids acts).length = acts.countP Act.isRequest := by
  induction acts generalizing ids with
  | nil => rfl
  | cons act acts ih =>
    rw [noted, List.length_append, Act.length_request?, ih, List.countP_cons, Nat.add_comm]

/-- The record of a request has as many before it as there were requests. -/
theorem getElem?_requestsOf {pre post : List Act} {act : Act} {record : RequestRecord}
    (h : act.request? (held pre) = some record) :
    (requestsOf (pre ++ act :: post))[pre.countP Act.isRequest]? = some record := by
  rw [requestsOf, noted_append, noted, ← length_noted_request [] pre]
  show (_ ++ ((act.request? (held pre)).toList ++ _))[_]? = _
  rw [h, List.getElem?_append_right (Nat.le_refl _), Nat.sub_self]
  rfl

theorem Accounts.tells {policy : RequestPolicy} {acts : List Act} {rig : Rig} {armed : Armed}
    (h : Accounts policy acts rig armed) (frame : Frame) (ctx : ContextRef) (data : Option Bytes)
    (length : Nat) (reportType requestKind : Int32) :
    ∃ record,
      (Act.served rig frame (.request ctx data length reportType requestKind)).request?
        (held acts) = some record ∧
      record.Tells acts rig ctx data length reportType requestKind := by
  refine ⟨_, rfl, rfl, rfl, rfl, ?_, ?_⟩
  · rintro id rfl outstanding
    have mem : id ∈ held acts := (mem_held_iff acts id).mpr outstanding
    have live := h.live id ((h.mem_tracked_iff id).mpr mem)
    obtain ⟨context, there⟩ := Option.isSome_iff_exists.mp live
    exact ⟨context, there, by simp [Option.filter, mem, there]⟩
  · intro other
    cases ctx with
    | none => rfl
    | some id =>
      have mem : id ∉ held acts := fun mem => other id rfl ((mem_held_iff acts id).mp mem)
      simp [Option.filter, mem]

/-! ## Hooks -/

section
variable (session : Session) (module : TestModule) (call : Call) (script : Option Script)
  (own : ∀ act ∈ session.callActs module call script, act.IsServed)
include own

/-- What the bridge recorded when the native code of a call ended. -/
theorem Session.logs_call :
    let ended := session.ended module call script
    ∃ armed, ended.session.rig.armed = some armed ∧
      Logs (session.callActs module call script) armed.requests := by
  intro ended
  obtain ⟨armed, ha, account, -⟩ :=
    session.accounts_before module call script own (List.append_nil _).symm
  refine ⟨armed, ha, ?_, ?_⟩
  · rw [account.requests]
    exact length_noted_request [] _
  · -- the account before the request has its context, the one at the end its record
    intro pre before frame ctx data length reportType requestKind post split
    obtain ⟨_, -, earlier, -⟩ := session.accounts_before module call script own split
    obtain ⟨record, requested, tells⟩ :=
      earlier.tells frame ctx data length reportType requestKind
    refine ⟨record, ?_, tells⟩
    rw [account.requests]
    exact (congrArg (fun acts => (requestsOf acts)[_]?) split).trans
      (getElem?_requestsOf requested)

theorem Session.answers_call {before : Rig} {frame : Frame} {ctx : ContextRef}
    {data : Option Bytes} {length : Nat} {reportType requestKind : Int32}
    (hact : .served before frame (.request ctx data length reportType requestKind) ∈
      session.callActs module call script) :
    call.policy.Answers data length
      (before.serve frame (.request ctx data length reportType requestKind)).1 := by
  obtain ⟨pre, post, split⟩ := List.append_of_mem hact
  obtain ⟨kept, running, earlier, filled⟩ :=
    session.account_of_served module call script own split
  have answer : before.request frame.file ctx data length reportType requestKind = _ :=
    Rig.request_of_armed ctx data length reportType requestKind filled running
  show call.policy.Answers data length
    (before.request frame.file ctx data length reportType requestKind).1
  rw [answer, earlier.policy]
  exact call.policy.answers data length

end

/-- The log of a hook whose native code calls nothing itself has one record for each request, in
order. A hook that succeeds gives it back, and one that fails reports its length. Each request is
answered by the options of the call, whatever came before it. -/
theorem Session.requests_logged (session : Session) (module : TestModule) (role : Role)
    (data : Option Bytes) (options : InvokeOptions) (script : Option Script)
    (payload : Option Payload) (entry : EntryPoint)
    (prepared : module.prepare role data = .ok (payload, entry))
    (own : ∀ act ∈ session.callActs module (.hook role payload entry options) script,
      act.IsServed) :
    let call := Call.hook role payload entry options
    let acts := session.callActs module call script
    let ended := session.ended module call script
    let outcome := session.hook module role data options (script.map Script.run)
    (ended.code = 0 →
      ∃ invocation, outcome.1 = .ok invocation ∧ Logs acts invocation.requests) ∧
    (ended.code ≠ 0 →
      outcome.1 = .error (.returnCode module.name (.hook role) ended.code)) ∧
    outcome.2.2.rig.log.getLast? =
      some (.hooked module.name role ended.code ((payload.map Payload.size).getD 0)
        (acts.countP Act.isRequest)) ∧
    ∀ before frame ctx bytes length reportType requestKind,
      let service := Service.request ctx bytes length reportType requestKind
      Act.served before frame service ∈ acts →
        options.policy.Answers bytes length (before.serve frame service).1 := by
  intro call acts ended outcome
  obtain ⟨armed, running, logged⟩ := session.logs_call module call script own
  have ends : ended.session.rig.disarm module.file = _ := Rig.disarm_of_armed running
  refine ⟨fun hcode => ?_,
    session.hook_of_code_ne_zero module role data options script prepared, ?_, ?_⟩
  · obtain ⟨invocation, hout, hreport⟩ :=
      session.hook_of_code_zero module role data options script prepared hcode
    refine ⟨invocation, hout, ?_⟩
    rw [ends] at hreport
    have same : invocation.requests = armed.requests := congrArg Rig.CallReport.requests hreport
    rw [same]
    exact logged
  · show (session.hook module role data options (script.map Script.run)).2.2.rig.log.getLast? = _
    rw [session.hook_eq module role data options script prepared]
    show (session.called module call script).rig.log.getLast? = _
    rw [Session.called, Call.finish_log, List.getLast?_append, ends, ← logged.length]
    rfl
  · intro before frame ctx bytes length reportType requestKind service hact
    exact session.answers_call module call script own hact

/-! ## A context that changes -/

/-- Makes a request with a context, gives the context another index and makes two more, the last
after the context was given back. -/
def Script.askThrice : Script :=
  .call (.allocate 5) fun
    | none => .idle
    | some id =>
      .call (.request (some id) (some [1, 2, 3]) 3 2 1) fun _ =>
        .call (.writeContext id { HookContext.empty with index := 9 }) fun _ =>
          .call (.request (some id) (some [4]) 1 2 0) fun _ =>
            .call (.release (some id)) fun _ =>
              .call (.request (some id) none 7 0 1) fun _ => .idle

/-- The second record tells the index that the context was given, and the third tells none. The reply
is longer than the data of the second request, and is cut. -/
theorem Session.requests_logged_thrice :
    let session := Session.start Disk.empty [] fun _ => none
    let module := TestModule.uniform ⟨1⟩ .scripted
    let options : InvokeOptions := { policy := { result := -1, reply := some [7, 8] } }
    let call : Call := .hook .deviceEvent none .scripted options
    let acts := session.callActs module call (some .askThrice)
    (∀ act ∈ acts, act.IsServed) ∧
    (∃ invocation second third,
      (session.hook module .deviceEvent none options (some Script.askThrice.run)).1 =
        .ok invocation ∧
      invocation.requests.length = 3 ∧ invocation.requests[1]? = some second ∧
      second.hid = some 9 ∧ invocation.requests[2]? = some third ∧ third.hid = none) ∧
    ∃ before frame, Act.served before frame (.request (some ⟨1⟩) (some [4]) 1 2 0) ∈ acts ∧
      (before.serve frame (.request (some ⟨1⟩) (some [4]) 1 2 0)).1.2 = some [7] := by
  intro session module options call acts
  have own : ∀ act ∈ acts, act.IsServed := by decide
  obtain ⟨succeeds, -, -, answers⟩ := session.requests_logged module .deviceEvent none options
    (some .askThrice) none .scripted rfl own
  obtain ⟨invocation, hout, logs⟩ := succeeds rfl
  refine ⟨own, ?_, ?_⟩
  · obtain ⟨pre, before, frame, post, split, there, counted, mem⟩ : ∃ pre before frame post,
        acts = pre ++ .served before frame (.request (some ⟨1⟩) (some [4]) 1 2 0) :: post ∧
          before.contexts ⟨1⟩ = some { HookContext.empty with index := 9 } ∧
          pre.countP Act.isRequest = 1 ∧ ⟨1⟩ ∈ held pre :=
      ⟨[_, _, _], _, _, [_, _], rfl, rfl, rfl, by decide⟩
    obtain ⟨second, hsecond, changed⟩ := logs.record pre before frame _ _ _ _ _ post split
    obtain ⟨context, same, index⟩ := changed.held ⟨1⟩ rfl ((mem_held_iff pre _).mp mem)
    obtain rfl := Option.some.inj (there.symm.trans same)
    obtain ⟨front, last, frame, split, three, gone⟩ : ∃ front last frame,
        acts = front ++ [.served last frame (.request (some ⟨1⟩) none 7 0 1)] ∧
          front.countP Act.isRequest = 2 ∧ ⟨1⟩ ∉ held front :=
      ⟨[_, _, _, _, _], _, _, rfl, rfl, by decide⟩
    obtain ⟨third, hthird, given⟩ := logs.record front last frame _ _ _ _ _ [] split
    refine ⟨invocation, second, third, hout, logs.length, counted ▸ hsecond, index,
      three ▸ hthird, given.other ?_⟩
    intro id same outstanding
    cases same
    exact gone ((mem_held_iff front _).mpr outstanding)
  · obtain ⟨before, frame, hact⟩ : ∃ before frame,
        Act.served before frame (.request (some ⟨1⟩) (some [4]) 1 2 0) ∈ acts :=
      ⟨_, _, .tail _ (.tail _ (.tail _ (.head _)))⟩
    exact ⟨before, frame, hact, ((answers _ _ _ _ _ _ _ hact).replied [7, 8] rfl).2⟩

end HidRig
