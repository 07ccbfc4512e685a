import HidRig.Proofs.Buffers.Attached
import HidRig.Proofs.Tables.Settled

/-! # Steps of a tree of calls

The record of a call is a tree. In the order of time, what its native code and that of the calls
inside of it did is one list of steps. The bytes of a buffer that is older than the call are told by
that list alone.

* `Turn`: a step of native code, with the state that it is taken in.
* `turns`: the steps of a record at any depth, and `turnsOf`: those of the code of one file.
* `Rig.Rewrites`: the bytes of a buffer are what some steps made of them, at each of them and after
  the last.
* `Chronicle.rewrites`, `Chronicle.later_of_mem`, `Chronicle.tables_of_mem`: buffers and tables at
  every step of a record.
-/

namespace HidRig

/-- A step of native code, with the state that it is taken in. -/
structure Turn where
  before : Rig
  frame : Frame
  service : Service

mutual

/-- The steps of native code in an act, at any depth, in order. -/
def Act.turns : Act → List Turn
  | .served before frame service => [⟨before, frame, service⟩]
  | .installed .. => []
  | .called _ _ _ acts => turns acts
  | .ran _ acts => turns acts
  | .threaded _ acts => turns acts

/-- The steps of native code in a record, at any depth, in order. -/
def turns : List Act → List Turn
  | [] => []
  | act :: acts => act.turns ++ turns acts

end

/-- The steps of the code of a file. -/
def turnsOf (file : FileId) (acts : List Act) : List Turn :=
  (turns acts).filter fun turn => turn.frame.file = file

theorem mem_turnsOf {file : FileId} {acts : List Act} {turn : Turn} :
    turn ∈ turnsOf file acts ↔ turn ∈ turns acts ∧ turn.frame.file = file := by
  simp [turnsOf]

/-! ## The bytes of a buffer -/

/-- The bytes of a buffer after some steps. -/
def rewritten (id : BufferId) (turns : List Turn) (content : Bytes) : Bytes :=
  turns.foldl (fun content turn => turn.service.rewrite id content) content

theorem rewritten_nil (id : BufferId) : rewritten id [] = fun content => content := rfl

theorem rewritten_append (id : BufferId) (xs ys : List Turn) (content : Bytes) :
    rewritten id (xs ++ ys) content = rewritten id ys (rewritten id xs content) := by
  simp [rewritten]

@[simp] theorem length_rewritten (id : BufferId) (turns : List Turn) (content : Bytes) :
    (rewritten id turns content).length = content.length := by
  induction turns generalizing content with
  | nil => rfl
  | cons turn turns ih => exact (ih _).trans (turn.service.length_rewrite id content)

/-- Some steps lead from `r` to `t`, and the bytes of a buffer are what they made of them. -/
structure Rig.Rewrites (id : BufferId) (r : Rig) (turns : List Turn) (t : Rig) : Prop where
  last : t.buffers id = (r.buffers id).map (rewritten id turns)
  within : ∀ pre turn post, turns = pre ++ turn :: post →
    turn.before.buffers id = (r.buffers id).map (rewritten id pre)

namespace Rig.Rewrites
variable {id : BufferId} {r s t : Rig} {xs ys : List Turn}

theorem same (h : t.buffers id = r.buffers id) : Rig.Rewrites id r [] t where
  last := by rw [h, rewritten_nil, Option.map_id']
  within pre turn post heq := by simp at heq

theorem served (id : BufferId) (r : Rig) (frame : Frame) (service : Service) :
    Rig.Rewrites id r [⟨r, frame, service⟩] (r.serve frame service).2.2 where
  last := r.serve_buffers frame service id
  within pre turn post heq := by
    cases pre with
    | nil =>
      cases heq
      rw [rewritten_nil, Option.map_id']
    | cons first pre => simp at heq

theorem append (h : Rig.Rewrites id r xs s) (k : Rig.Rewrites id s ys t) :
    Rig.Rewrites id r (xs ++ ys) t := by
  have both : ∀ pre, (s.buffers id).map (rewritten id pre) =
      (r.buffers id).map (rewritten id (xs ++ pre)) := by
    intro pre
    rw [h.last, Option.map_map]
    exact congrArg (Option.map · _) (funext fun content => (rewritten_append id xs pre content).symm)
  refine ⟨by rw [k.last, both], fun pre turn post heq => ?_⟩
  rcases List.append_eq_append_iff.mp heq with ⟨front, rfl, hys⟩ | ⟨front, hxs, hturn⟩
  · rw [k.within front turn post hys, both]
  · cases front with
    | nil =>
      rw [List.append_nil] at hxs
      subst hxs
      rw [k.within [] turn post hturn.symm, both, List.append_nil]
    | cons first front =>
      cases hturn
      exact h.within pre turn front hxs

end Rig.Rewrites

theorem BufferId.ne_of_lt {id : BufferId} {n : Nat} (h : id.number < n) : id ≠ ⟨n⟩ :=
  fun heq => Nat.ne_of_lt h (congrArg BufferId.number heq)

/-! ## Steps of a record -/

namespace Chronicle
variable {file : FileId} {r t : Rig} {acts : List Act}

/-- The bytes of a buffer that was there before are what the steps of the record made of them. -/
theorem rewrites (h : Chronicle file r acts t) {id : BufferId} :
    id.number < r.bufferCount → Rig.Rewrites id r (turns acts) t := by
  induction h with
  | done aside => exact fun _ => .same (by rw [aside.buffers])
  | served aside frame service _ _ ih =>
    intro hid
    have next := (Rig.Rewrites.served id _ frame service).append
      (ih (by rwa [Rig.serve_bufferCount, aside.bufferCount]))
    exact (Rig.Rewrites.same (by rw [aside.buffers])).append next
  | @installed _ r s _ _ _ aside _ _ installs _ ih =>
    intro hid
    have old : id.number < s.bufferCount := by rwa [← aside.bufferCount] at hid
    have next := ih (Nat.lt_of_lt_of_le old installs.bufferCount_le)
    exact (Rig.Rewrites.same (by rw [installs.buffers_old id old, aside.buffers])).append next
  | @called _ r s e _ _ _ aside module call code frame body _ ihBody ih =>
    intro hid
    have old : id.number < s.bufferCount := by rwa [← aside.bufferCount] at hid
    have other : id ≠ ⟨s.bufferCount⟩ := BufferId.ne_of_lt old
    have later := (Rig.Later.start module s call).trans body.later
    have first := ihBody
      (Nat.lt_of_lt_of_le old (Rig.Later.start module s call).bufferCount_le)
    have next := ih (by
      rw [call.finish_bufferCount]
      exact Nat.lt_of_lt_of_le old later.bufferCount_le)
    have starts : (call.start module s).2.buffers id = r.buffers id := by
      rw [call.start_buffers, if_neg other, aside.buffers]
    have ends : (call.finish module s code frame e).buffers id = e.buffers id := by
      rw [call.finish_buffers, if_neg fun own => other own.1]
    have whole := (Rig.Rewrites.same starts).append (first.append (Rig.Rewrites.same ends))
    rw [List.append_nil] at whole
    exact whole.append next
  | ran aside body _ ihBody ih =>
    intro hid
    have first := ihBody (by rwa [aside.bufferCount])
    have next := ih (Nat.lt_of_lt_of_le (by rwa [aside.bufferCount]) body.later.bufferCount_le)
    exact (Rig.Rewrites.same (by rw [aside.buffers])).append (first.append next)
  | @threaded _ r s e _ _ _ aside body _ ihBody ih =>
    intro hid
    have old : id.number < s.bufferCount := by rwa [← aside.bufferCount] at hid
    have first : Rig.Rewrites id s _ e := ⟨(ihBody old).last, (ihBody old).within⟩
    have next := ih (Nat.lt_of_lt_of_le old body.later.bufferCount_le)
    have rest : Rig.Rewrites id e _ _ := ⟨next.last, next.within⟩
    exact (Rig.Rewrites.same (by rw [aside.buffers])).append (first.append rest)

/-- Every step of a record is taken later than the record starts. -/
theorem later_of_mem (h : Chronicle file r acts t) :
    ∀ turn ∈ turns acts, r.Later turn.before := by
  induction h with
  | done => exact nofun
  | served aside frame service _ _ ih =>
    intro turn hturn
    have first := Rig.Later.aside aside
    rcases List.mem_cons.mp hturn with rfl | hturn
    · exact first
    · exact first.trans ((Rig.Later.serve _ frame service).trans (ih turn hturn))
  | installed aside _ _ installs _ ih =>
    exact fun turn hturn =>
      (Rig.Later.aside aside).trans ((Rig.Later.installs installs).trans (ih turn hturn))
  | @called _ _ s _ _ _ _ aside module call code frame body _ ihBody ih =>
    intro turn hturn
    refine (Rig.Later.aside aside).trans ?_
    have start := Rig.Later.start module s call
    rcases List.mem_append.mp hturn with inner | outer
    · exact start.trans (ihBody turn inner)
    · exact ((start.trans body.later).finish module call code frame).trans (ih turn outer)
  | ran aside body _ ihBody ih =>
    intro turn hturn
    refine (Rig.Later.aside aside).trans ?_
    rcases List.mem_append.mp hturn with inner | outer
    · exact ihBody turn inner
    · exact body.later.trans (ih turn outer)
  | threaded aside body _ ihBody ih =>
    intro turn hturn
    refine (Rig.Later.aside aside).trans ?_
    rcases List.mem_append.mp hturn with inner | outer
    · have step := ihBody turn inner
      exact ⟨step.bufferCount_le, step.lengths, step.data⟩
    · exact body.later.threaded.trans (ih turn outer)

theorem tables_of_touches_nil (h : Chronicle file r acts t) {f : FileId}
    (untouched : touches f acts = []) : t.tables f = r.tables f := by
  have settled := h.settles f
  rw [untouched] at settled
  generalize t.tables f = last at settled
  generalize htouched : ([] : List Touch) = touched at settled
  cases settled with
  | untouched => rfl
  | installed => simp at htouched
  | left => simp at htouched

/-- A file that nothing enters has its table at every step of a record. -/
theorem tables_of_mem (h : Chronicle file r acts t) {f : FileId} :
    touches f acts = [] → ∀ turn ∈ turns acts, turn.before.tables f = r.tables f := by
  induction h with
  | done => exact fun _ => nofun
  | served aside frame service _ _ ih =>
    intro untouched turn hturn
    rcases List.mem_cons.mp hturn with rfl | hturn
    · rw [aside.tables]
    · rw [ih untouched turn hturn, Rig.serve_tables, aside.tables]
  | installed aside place table installs _ ih =>
    intro untouched turn hturn
    obtain ⟨first, rest⟩ := List.append_eq_nil_iff.mp untouched
    have other : f ≠ place := by
      rintro rfl
      simp [Act.touches] at first
    rw [ih rest turn hturn, installs.tables, aside.tables]
    exact if_neg other
  | @called _ r s e _ _ _ aside module call code frame body _ ihBody ih =>
    intro untouched turn hturn
    obtain ⟨first, rest⟩ := List.append_eq_nil_iff.mp untouched
    have other : f ≠ module.file := by
      rintro rfl
      simp [Act.touches] at first
    rw [Act.touches, if_neg (Ne.symm other)] at first
    have starts : (call.start module s).2.tables f = r.tables f := by
      rw [call.start_tables, ← aside.tables]
      exact if_neg other
    rcases List.mem_append.mp hturn with inner | outer
    · rw [ihBody first turn inner, starts]
    · rw [ih rest turn outer, call.finish_tables, ← starts, ← body.tables_of_touches_nil first]
      exact if_neg other
  | ran aside body _ ihBody ih =>
    intro untouched turn hturn
    obtain ⟨first, rest⟩ := List.append_eq_nil_iff.mp untouched
    rcases List.mem_append.mp hturn with inner | outer
    · rw [ihBody first turn inner, aside.tables]
    · rw [ih rest turn outer, body.tables_of_touches_nil first, aside.tables]
  | @threaded _ r s e _ _ _ aside body _ ihBody ih =>
    intro untouched turn hturn
    obtain ⟨first, rest⟩ := List.append_eq_nil_iff.mp untouched
    rw [← aside.tables]
    rcases List.mem_append.mp hturn with inner | outer
    · exact ihBody first turn inner
    · exact (ih rest turn outer).trans (body.tables_of_touches_nil first)

end Chronicle

end HidRig
