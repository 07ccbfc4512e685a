import HidRig.Proofs.Contexts.Balance
import HidRig.Proofs.Probes.Arguments
import HidRig.Proofs.Requests.Log
import HidRig.Proofs.Session.Alone

/-! # Probes

A probe gives native code a copy of its argument, and gives back the copy if the code says so. It
has no buffer, and its requests do nothing.

* `leftBy`: an argument as some acts leave it.
* `Alone.args_eq`: native code finds the argument as its own steps left it.
* `Probing`: a probe in the middle of it.
* `Session.probe_kept`: every probe, from its start to its outcome.
-/

namespace HidRig

/-! ## The argument -/

/-- The argument that an act writes. -/
def Act.writes? : Act → Option ProbeArgs
  | .served _ _ (.writeArgs args) => some args
  | _ => none

/-- An argument as some acts leave it. -/
def leftBy (acts : List Act) (args : ProbeArgs) : ProbeArgs :=
  lastOf Act.writes? acts args

theorem Rig.serve_args (rig : Rig) {frame : Frame} {args : ProbeArgs}
    (given : frame.args = some args) (service : Service) :
    (rig.serve frame service).2.1.args =
      some ((Act.served rig frame service).writes?.getD args) := by
  cases service with
  | writeArgs written => exact congrArg (Option.map fun _ => written) given
  | _ => exact given

namespace Alone
variable {silent : Prop} {frame last : Frame} {r t : Rig} {acts : List Act}

theorem args_eq {given : ProbeArgs} (h : Alone silent frame r acts last t)
    (start : frame.args = some given) : last.args = some (leftBy acts given) := by
  induction h generalizing given with
  | done => exact start
  | @served _ _ _ s _ _ _ service _ ih =>
    rw [ih (s.serve_args start service), leftBy, leftBy, lastOf_cons]

theorem file_eq (h : Alone silent frame r acts last t) : last.file = frame.file := by
  induction h with
  | done => rfl
  | @served frame _ _ s _ _ _ service _ ih => rw [ih, s.serve_file]

/-- The next act is done where the run is. -/
theorem next (h : Alone silent frame r acts last t) :
    ∀ act ∈ acts.head?, ∃ service, act = .served (stateAt t acts) frame service := by
  intro act first
  cases h with
  | done => cases first
  | served _ service _ =>
    cases first
    exact ⟨service, rfl⟩

end Alone

/-! ## In the middle of a probe -/

/-- A probe after some acts and before others. -/
structure Probing (file : FileId) (args : ProbeArgs) (pre post : List Act) (frame : Frame)
    (rig : Rig) : Prop where
  file : frame.file = file
  /-- The code finds the argument as it left it. -/
  args : frame.args = some (leftBy pre args)
  next : ∀ act ∈ post.head?, ∃ service, act = .served rig frame service
  noData : ∀ offset size, (rig.serve frame (.getData offset size)).1 = none
  /-- A request succeeds and leaves its data as they are. -/
  settled : ∀ ctx data length reportType requestKind,
    (rig.serve frame (.request ctx data length reportType requestKind)).1 = (0, data)

section
variable (session : Session) (module : TestModule) (args : ProbeArgs) (script : Option Script)
  (own : ∀ act ∈ session.callActs module (.probe args) script, act.IsServed)
include own

theorem Session.alone_probe :
    let ended := session.ended module (.probe args) script
    Alone False ⟨module.file, none, some args⟩ (session.rig.arm module.file none {})
      (session.callActs module (.probe args) script) ended.frame ended.session.rig :=
  session.alone_ended False script module (.probe args) own False.elim

theorem Session.probing {pre post : List Act}
    (h : session.callActs module (.probe args) script = pre ++ post) :
    let ended := session.ended module (.probe args) script
    ∃ frame, Probing module.file args pre post frame (stateAt ended.session.rig post) := by
  intro ended
  have run := session.alone_probe module args script own
  have whole := session.chronicle_ended (Script.chronicled script) module (.probe args)
  obtain ⟨armed, running, account, filled⟩ :=
    session.accounts_before module (.probe args) script own h
  rw [h] at run whole own
  obtain ⟨frame, front, back⟩ := run.split
  have place : frame.file = module.file := front.file_eq
  have served : ∀ act ∈ pre, act.IsServed := (List.forall_mem_append.mp own).1
  refine ⟨frame, place, front.args_eq rfl, back.next, ?_, ?_⟩
  · intro offset size
    -- the table of a call is over its buffer, whatever was installed before
    have table : (stateAt ended.session.rig post).tables module.file = .armed none := by
      rw [(whole.split.1.solo served).tables, Call.start_tables]
      exact if_pos rfl
    show Rig.getData _ frame.file offset size = none
    rw [place, Rig.getData, table, ServiceTable.grants_of_data_none rfl]
    rfl
  · intro ctx data length reportType requestKind
    show (Rig.request _ frame.file ctx data length reportType requestKind).1 = (0, data)
    rw [place, Rig.request_of_armed ctx data length reportType requestKind filled running,
      account.policy]
    exact (RequestPolicy.answers {} data length).settled rfl

/-! ## The outcome -/

/-- The code alone decides the outcome. -/
theorem Session.probe_outcome :
    (session.probe module args (script.map Script.run)).1 =
      let code := (session.ended module (.probe args) script).code
      if code = 0 then .ok (leftBy (session.callActs module (.probe args) script) args)
      else .error (.returnCode module.name .probe code) := by
  have left := (session.alone_probe module args script own).args_eq rfl
  rw [session.probe_eq]
  show (if _ then Except.ok (Option.getD _ _) else _) = _
  rw [left]
  rfl

end

/-- A probe gives back its argument as the native code left it, if the code is zero, and a fault
with the code otherwise. All along the code finds no data, and its requests succeed without effect.
The caller's argument is as it was: another probe on it shows nothing of what this one wrote. The
contexts that the code asked for are gone, unless it made one of its own at the address. -/
theorem Session.probe_kept (session : Session) (module : TestModule) (args : ProbeArgs)
    (script : Option Script)
    (own : ∀ act ∈ session.callActs module (.probe args) script, act.IsServed) :
    let acts := session.callActs module (.probe args) script
    let ended := session.ended module (.probe args) script
    let outcome := session.probe module args (script.map Script.run)
    (∀ result, outcome.1 = .ok result ↔ ended.code = 0 ∧ result = leftBy acts args) ∧
    (∀ fault, outcome.1 = .error fault ↔
      ended.code ≠ 0 ∧ fault = .returnCode module.name .probe ended.code) ∧
    (∀ again, (∀ act ∈ outcome.2.2.callActs module (.probe args) again, act.IsServed) →
      ∀ result, (outcome.2.2.probe module args (again.map Script.run)).1 = .ok result →
        result = leftBy (outcome.2.2.callActs module (.probe args) again) args) ∧
    (∀ pre post, acts = pre ++ post →
      ∃ frame, Probing module.file args pre post frame (stateAt ended.session.rig post)) ∧
    ∀ id ∈ handedOut acts, outcome.2.2.rig.contexts id = none ∨ id ∈ owned acts := by
  intro acts ended outcome
  have decided : outcome.1 = if ended.code = 0 then .ok (leftBy acts args)
      else .error (.returnCode module.name .probe ended.code) :=
    session.probe_outcome module args script own
  obtain ⟨_, -, balanced⟩ := session.balanced module (.probe args) script own
  refine ⟨fun result => ?_, fun fault => ?_, fun again alone result after => ?_,
    fun pre post h => session.probing module args script own h, balanced.gone⟩
  · rw [decided]
    split
    · next zero => simp [zero, eq_comm]
    · next code => simp [code]
  · rw [decided]
    split
    · next zero => simp [zero]
    · next code => simp [code, eq_comm]
  · rw [outcome.2.2.probe_outcome module args again alone] at after
    dsimp only at after
    split at after
    · exact (Except.ok.inj after).symm
    · cases after

/-! ## A probe that changes everything -/

def ProbeArgs.judged (args : ProbeArgs) : ProbeArgs :=
  (((args.withHid 9).withRdescSize 3).withRetval (-22)).write 0 [7, 7]

/-- Asks for data and for a context, makes a request, changes all of its argument, and ends with a
code. -/
def Script.judge (code : Int32) : Script :=
  .call (.getData 0 4) fun _ =>
    .call (.allocate 5) fun ctx =>
      .call (.request ctx (some [1, 2]) 2 2 1) fun _ =>
        .call .readArgs fun args =>
          .call (.writeArgs (args.getD .empty).judged) fun _ => .exit code

/-- A table with data was installed in the file. The verdict does not count, but the code does. -/
theorem Session.probe_kept_judge :
    let session := Session.withNeighbour []
    let module := TestModule.uniform ⟨0⟩ .scripted
    let acts (code : Int32) := session.callActs module (.probe .empty) (some (.judge code))
    let outcome (code : Int32) := session.probe module .empty (some (Script.judge code).run)
    (session.Reachable ∧ (session.rig.tables module.file).data.isSome ∧
      (∀ act ∈ acts 0, act.IsServed) ∧ ∀ act ∈ acts (-5), act.IsServed) ∧
    (outcome 0).1 = .ok (ProbeArgs.judged .empty) ∧
    (outcome (-5)).1 = .error (.returnCode "uniform" .probe (-5)) ∧
    ∃ frame, Probing ⟨0⟩ .empty (acts (-5)) [] frame
        (session.ended module (.probe .empty) (some (.judge (-5)))).session.rig ∧
      frame.args = some (ProbeArgs.judged .empty) := by
  intro session module acts outcome
  have reachable : session.Reachable := ((Session.Reachable.start _ _ _ _ _).take _ _).take _ _
  have served : ∀ act ∈ acts 0, act.IsServed := by decide
  have refused : ∀ act ∈ acts (-5), act.IsServed := by decide
  obtain ⟨good, -⟩ := session.probe_kept module .empty (some (.judge 0)) served
  obtain ⟨-, bad, -, during, -⟩ :=
    session.probe_kept module .empty (some (.judge (-5))) refused
  refine ⟨⟨reachable, by rfl, served, refused⟩, (good _).mpr ⟨by rfl, by rfl⟩,
    (bad _).mpr ⟨by decide, by rfl⟩, ?_⟩
  obtain ⟨frame, probing⟩ := during (acts (-5)) [] (List.append_nil _).symm
  exact ⟨frame, probing, probing.args⟩

end HidRig
