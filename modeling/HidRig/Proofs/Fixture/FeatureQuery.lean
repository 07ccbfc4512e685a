import HidRig.Proofs.Fixture.Opened
import HidRig.Proofs.Session.Ensured
import HidRig.Proofs.Session.Independence

/-! # A query on every report

The hook that asks the device, from the call to the answer of the device and back.

* `FeatureQuery.code`: the code of the answer to the query.
* `FeatureQuery.Queried`: what the hook makes of a workplace with enough data.
* `FeatureQuery.hook_ensures`: what the hook makes of any workplace.
* `Session.query_answered`: the requests, the contexts and the outcome of a call.
-/

namespace HidRig

namespace Fixture.FeatureQuery
variable {module : TestModule}

theorem hook_of_opened (opened : module.OpenedOn fixture) :
    module.hooks .deviceEvent = .resolved symbol (.code hook) :=
  opened.hook (by decide +kernel) (by decide) (by decide)

/-! ## The answer -/

/-- The code of the answer to the query: the length of the reply, as far as there is room for it. -/
def code (policy : RequestPolicy) : Int32 :=
  match policy.reply with
  | some reply => Int32.ofNat (min reply.length 4)
  | none => policy.result

theorem answer_query (policy : RequestPolicy) :
    (policy.answer query).1 = code policy ∧
      (policy.answer query).2.getD 1 0 = (policy.reply.getD []).getD 1 0 := by
  unfold RequestPolicy.answer code
  cases policy.reply with
  | none => exact ⟨rfl, rfl⟩
  | some reply =>
    have room : min (min reply.length 4) Abi.maxSigned = min reply.length 4 := by
      unfold Abi.maxSigned
      omega
    refine ⟨congrArg Int32.ofNat room, ?_⟩
    -- past the second byte, the query has nothing but zeros
    match reply with
    | [] | [_] => rfl
    | _ :: _ :: _ => simp [query]

/-- The lowest byte of a code is the code modulo 256. -/
theorem low_byte (code : Int32) : code.toUInt32.toUInt8 = UInt8.ofInt code.toInt := by
  have signed : code.toInt = (code.toUInt32.toNat : Int).bmod (2 ^ 32) :=
    code.toBitVec.toInt_eq_toNat_bmod
  have lifted : (code.toInt % 256).toNat = code.toUInt32.toNat % 256 := by
    rw [signed, Int.bmod]
    omega
  apply UInt8.toNat_inj.mp
  rw [UInt32.toNat_toUInt8, ← lifted]
  show _ = (UInt8.ofNat (code.toInt % 256).toNat).toNat
  rw [lifted, UInt8.toNat_ofNat', Nat.mod_mod]

/-! ## The hook -/

/-- The report with a code and a byte of the answer. -/
def stored (report : Bytes) (policy : RequestPolicy) : Bytes :=
  (report.set 2 (UInt8.ofInt (code policy).toInt)).set 3 ((policy.reply.getD []).getD 1 0)

/-- What the hook makes of a workplace with enough data. -/
structure Queried (place : Workplace) (result : Int32) (last : Workplace) : Prop where
  requests : last.requests = place.requests ++ [⟨some place.context.index, 2, 1, [5, 0, 0, 0]⟩]
  handed : ∃ id, last.handed = place.handed ++ [id]
  held : last.held.length = if place.data.getD 1 0 = 0xff then 1 else 0
  fails : code place.policy < 0 → result = code place.policy
  succeeds : 0 ≤ code place.policy → result = 0 ∧ last.data = stored place.data place.policy ∧
    last.context = { place.context with retvalOrSize := code place.policy }

/-- A workplace after the query, made on a context of its own. -/
structure Asked (place next : Workplace) (id : ContextId) : Prop where
  window : place.window = next.window
  data : next.data = place.data
  context : next.context = place.context
  requests : next.requests = place.requests ++ [⟨some place.context.index, 2, 1, [5, 0, 0, 0]⟩]
  handed : next.handed = place.handed ++ [id]

theorem Asked.release {place next : Workplace} {id : ContextId} (asked : Asked place next id) :
    Asked place (next.release id) id :=
  ⟨asked.window, asked.data, asked.context, asked.requests, asked.handed⟩

section Answered
variable {place next : Workplace} {id : ContextId} {answer : Int32 × Bytes}
  (answered : place.policy.answer query = answer) (enough : 4 ≤ place.data.length)
  (asked : Asked place next id)
include answered enough asked

/-- The end of the hook, once its context is given back or kept. -/
theorem store_ensures
    (held : next.held.length = if place.data.getD 1 0 = 0xff then 1 else 0) :
    (store answer place.window).Ensures next (Queried place) := by
  obtain ⟨result, second⟩ := answer_query place.policy
  have handed : ∃ id, next.handed = place.handed ++ [id] := ⟨id, asked.handed⟩
  rw [answered] at result second
  unfold store
  rw [result, second]
  split
  · next negative =>
    exact .done ⟨asked.requests, handed, held, fun _ => rfl,
      fun positive => absurd negative (Int32.not_lt.mpr positive)⟩
  · next positive =>
    have written (b c : UInt8) : next.data.overwrite 2 [b, c] = (place.data.set 2 b).set 3 c := by
      rw [asked.data, Bytes.overwrite_two enough]
    refine .bind (.write asked.window _ _ (.bind (.context (.bind (.setContext (.done ?_))))))
    refine ⟨asked.requests, handed, held, fun negative => absurd negative positive,
      fun _ => ⟨rfl, ?_, ?_⟩⟩
    · exact (written _ _).trans (by rw [low_byte, stored])
    · simp only [Workplace.setContext, Workplace.write, asked.context]

/-- The hook gives its context back, unless the report is marked. -/
theorem settle_ensures {ctx : HookContext} (held : next.held = [(id, ctx)]) :
    (settle id answer place.window).Ensures next (Queried place) := by
  have marker : next.data.window 1 1 = [place.data.getD 1 0] := by
    rw [asked.data, Bytes.window_one (by omega)]
  have unmarked : [place.data.getD 1 0] ≠ [leakMarker] ↔ place.data.getD 1 0 ≠ 0xff :=
    not_congr List.singleton_inj
  refine .bind (.read asked.window 1 1 ?_)
  rw [marker]
  by_cases marked : place.data.getD 1 0 = 0xff
  · rw [if_neg (unmarked.not_left.mpr marked)]
    refine store_ensures answered enough asked ?_
    rw [held, if_pos marked, List.length_singleton]
  · rw [if_pos (unmarked.mpr marked)]
    refine .bind (.release (by simp [Workplace.ids, held]) ?_)
    refine store_ensures answered enough asked.release ?_
    rw [Workplace.release, held, if_neg marked, List.filter_cons_of_neg (by simp)]
    rfl

end Answered

/-- A short report is left alone. Over any other, one context is asked for, with which the query is
made, and it is kept if the report is marked. -/
theorem hook_ensures {place : Workplace} (fresh : place.held = []) :
    hook.Ensures place fun result last =>
      (place.data.length < 4 → result = 0 ∧ last = place) ∧
        (4 ≤ place.data.length → Queried place result last) := by
  refine .bind (.context (.withData ?_ ?_))
  · exact fun short => ⟨fun _ => ⟨rfl, rfl⟩, fun enough => absurd short (Nat.not_lt.mpr enough)⟩
  · intro (enough : 4 ≤ place.data.length)
    refine .bind (.allocate fun id _ _ => ?_)
    let asking := place.allocate id place.context.index
    let next := asking.request ⟨some place.context.index, 2, 1, query⟩
    have held : asking.held = [(id, .allocated place.context.index)] := by
      show place.held ++ _ = _
      rw [fresh, List.nil_append]
    have member : (id, .allocated place.context.index) ∈ asking.held := held ▸ .head _
    have asked : Asked place next id := ⟨rfl, rfl, rfl, rfl, rfl⟩
    have settled : (settle id (place.policy.answer query) place.window).Ensures next
        (Queried place) := settle_ensures rfl enough asked held
    exact .bind (.request member (settled.mono fun _ _ queried =>
      ⟨fun short => absurd enough (Nat.not_le.mpr short), fun _ => queried⟩))

end Fixture.FeatureQuery

/-- A report of fewer than four bytes is left alone. Over any other, the hook asks for one context and
makes one request with it, whose code it returns if that is negative. Otherwise it stores the code
and the second byte of the answer in the report. No request for a context is refused, and all
contexts that were handed out are gone afterwards. -/
theorem Session.query_answered (session : Session) (module : TestModule)
    (opened : module.OpenedOn Fixture.FeatureQuery.fixture) (report : Bytes)
    (fits : report.length < 2 ^ 64) (options : InvokeOptions) (script : Option Script) :
    let payload := Payload.ofReport report
    let entry := EntryPoint.code Fixture.FeatureQuery.hook
    let acts := session.callActs module (.hook .deviceEvent (some payload) entry options) script
    let outcome := session.hook module .deviceEvent (some report) options (script.map Script.run)
    let start := options.startContext (some payload)
    let code : Int32 :=
      match options.policy.reply with
      | some reply => Int32.ofNat (min reply.length 4)
      | none => options.policy.result
    module.prepare .deviceEvent (some report) = .ok (some payload, entry) ∧
    (∀ before frame hid, .served before frame (.allocate hid) ∈ acts →
      (before.allocate frame.file hid).1.isSome) ∧
    (∀ id ∈ handedOut acts, outcome.2.2.rig.contexts id = none) ∧
    (report.length < 4 →
      outcome.1 = .ok ⟨some report, start, [], 0⟩ ∧ requestsOf acts = [] ∧ handedOut acts = []) ∧
    (4 ≤ report.length →
      let record : RequestRecord := ⟨some start.index, 2, 1, [5, 0, 0, 0]⟩
      let second := (options.policy.reply.getD []).getD 1 0
      requestsOf acts = [record] ∧ (∃ id, handedOut acts = [id]) ∧
      (code < 0 → outcome.1 = .error (.returnCode module.name (.hook .deviceEvent) code)) ∧
      (0 ≤ code → outcome.1 = .ok
        { data := some ((report.set 2 (UInt8.ofInt code.toInt)).set 3 second)
          context := { start with retvalOrSize := code }
          requests := [record]
          leaked := if report.getD 1 0 = 0xff then 1 else 0 })) := by
  intro payload entry acts outcome start code
  have resolved := Fixture.FeatureQuery.hook_of_opened opened
  have prepared : module.prepare .deviceEvent (some report) = .ok (some payload, entry) :=
    TestModule.prepare_of_resolved rfl resolved
  have own : ∀ act ∈ acts, act.IsServed := Native.isServed_of_mem _ _ _
  obtain ⟨_, _, result, last, ⟨short, long⟩, ends, requests, handed, gone⟩ :=
    session.hook_of_ensures prepared fits options script fun _ _ fresh =>
      Fixture.FeatureQuery.hook_ensures fresh
  refine ⟨prepared, fun _ _ _ => session.allocate_isSome module _ script own, gone, ?_, ?_⟩
  · intro small
    obtain ⟨rfl, rfl⟩ := short small
    exact ⟨ends, requests, handed⟩
  · intro enough record second
    have queried := long enough
    obtain ⟨id, new⟩ := queried.handed
    refine ⟨requests.trans queried.requests, ⟨id, handed.trans new⟩, ?_, ?_⟩
    · intro negative
      have nonzero : code ≠ 0 := fun zero => Int32.lt_irrefl (zero ▸ negative)
      rw [ends, queried.fails negative]
      exact if_neg nonzero
    · intro positive
      obtain ⟨rfl, data, context⟩ := queried.succeeds positive
      have recorded : last.requests = [record] := queried.requests
      rw [ends, Workplace.outcome, if_pos rfl, Workplace.invocation, data, context, recorded,
        queried.held]
      rfl

/-- Over a marked report, a reply of three bytes and a request that fails. -/
theorem Session.query_answered_marked :
    let session := Session.start Disk.empty [] fun _ => none
    let report : Bytes := [1, 0xff, 3, 4]
    let start : HookContext := { HookContext.empty with index := 9 }
    let outcome (module : TestModule) (policy : RequestPolicy) :=
      (session.hook module .deviceEvent (some report) ⟨some start, policy⟩ none).1
    report.length < 2 ^ 64 ∧
    ∃ module, module.OpenedOn Fixture.FeatureQuery.fixture ∧
      outcome module ⟨0, some [7, 8, 9]⟩ =
        .ok ⟨some [1, 0xff, 3, 8], { start with retvalOrSize := 3 },
          [⟨some 9, 2, 1, [5, 0, 0, 0]⟩], 1⟩ ∧
      outcome module ⟨-71, none⟩ = .error (.returnCode module.name (.hook .deviceEvent) (-71)) := by
  intro session report start outcome
  have fits : report.length < 2 ^ 64 := by decide
  obtain ⟨module, -, -, -, opened⟩ := Fixture.exists_opened "0010-feature-query" Fixture.acceptAll
    [(Fixture.FeatureQuery.symbol, Fixture.FeatureQuery.hook)] _
  refine ⟨fits, module, opened, ?_, ?_⟩
  · obtain ⟨-, -, -, -, long⟩ := session.query_answered module opened report fits
      ⟨some start, ⟨0, some [7, 8, 9]⟩⟩ none
    obtain ⟨-, -, -, succeeds⟩ := long (by decide)
    exact succeeds (by decide)
  · obtain ⟨-, -, -, -, long⟩ := session.query_answered module opened report fits
      ⟨some start, ⟨-71, none⟩⟩ none
    obtain ⟨-, -, fails, -⟩ := long (by decide)
    exact fails (by decide)

end HidRig
