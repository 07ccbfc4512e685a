import HidRig.Fixture.Basic
import HidRig.Proofs.Contexts.Held
import HidRig.Proofs.Rig.Bridge
import Mathlib.Data.List.GetD
import Mathlib.Data.List.Nodup

/-! # What a hook works on

While a hook runs and calls nothing else, it sees little of the rig: its buffer, its context, the
contexts that it asked for, and the answers to its requests. What a hook does is told by how it
changes these.

* `Bytes.window_succ`, `Bytes.overwrite_cons`: reading and writing, one byte at a time.
* `Workplace`: all that a hook sees and changes.
* `Rig.Offers`: a state of the rig in which native code has a workplace.
* `Native.Ensures`: from wherever its workplace is offered, a program ends as a postcondition says.
* `Native.Ensures.bind`, `Native.Ensures.read`, …: programs one after another, and each service.
-/

namespace HidRig

/-! ## Bytes, one at a time -/

namespace Bytes
variable {bytes : Bytes} {i : Nat}

theorem window_zero (bytes : Bytes) (i : Nat) : bytes.window i 0 = [] :=
  List.take_zero

theorem window_succ (inside : i < bytes.length) (n : Nat) :
    bytes.window i (n + 1) = bytes.getD i 0 :: bytes.window (i + 1) n := by
  rw [window, List.drop_eq_getElem_cons inside, List.take_succ_cons, List.getD_eq_getElem _ _ inside]
  rfl

theorem window_one (inside : i < bytes.length) : bytes.window i 1 = [bytes.getD i 0] := by
  rw [window_succ inside, window_zero]

theorem window_two (inside : i + 1 < bytes.length) :
    bytes.window i 2 = [bytes.getD i 0, bytes.getD (i + 1) 0] := by
  rw [window_succ (Nat.lt_of_succ_lt inside), window_one inside]

theorem overwrite_nil (bytes : Bytes) (i : Nat) : bytes.overwrite i [] = bytes := by
  simp [overwrite]

theorem overwrite_cons (inside : i < bytes.length) (b : UInt8) (new : Bytes) :
    bytes.overwrite i (b :: new) = overwrite (bytes.set i b) (i + 1) new := by
  obtain ⟨room, same⟩ : ∃ room, bytes.length - i = room + 1 := ⟨bytes.length - i - 1, by omega⟩
  have left : bytes.length - (i + 1) = room := by omega
  have length : (bytes.take i).length = i := List.length_take_of_le (Nat.le_of_lt inside)
  have front : (bytes.set i b).take (i + 1) = bytes.take i ++ [b] := by
    rw [List.take_set, List.take_succ_eq_append_getElem inside,
      List.set_append_right _ _ (Nat.le_of_eq length), length, Nat.sub_self]
    rfl
  have back (n : Nat) : (bytes.set i b).drop (i + (n + 1)) = bytes.drop (i + (n + 1)) :=
    List.drop_set_of_lt (by omega)
  simp only [overwrite, List.length_set, same, left, front, back, List.take_succ_cons,
    List.append_assoc, List.cons_append, List.nil_append, List.length_cons, Nat.add_right_comm i 1,
    Nat.add_assoc]

theorem overwrite_one (inside : i < bytes.length) (b : UInt8) :
    bytes.overwrite i [b] = bytes.set i b := by
  rw [overwrite_cons inside, overwrite_nil]

theorem overwrite_two (inside : i + 1 < bytes.length) (b c : UInt8) :
    bytes.overwrite i [b, c] = (bytes.set i b).set (i + 1) c := by
  rw [overwrite_cons (Nat.lt_of_succ_lt inside), overwrite_one (by simpa using inside)]

end Bytes

/-! ## Workplaces -/

/-- What the native code of a hook sees and changes. -/
structure Workplace where
  buffer : BufferId
  own : ContextId
  policy : RequestPolicy
  data : Bytes
  context : HookContext
  /-- The contexts that were asked for and not given back, with what they hold. -/
  held : List (ContextId × HookContext)
  /-- All contexts that were asked for. -/
  handed : List ContextId
  requests : List RequestRecord

namespace Workplace

/-- The workplace at the start of a hook. -/
def start (buffer : BufferId) (own : ContextId) (policy : RequestPolicy) (data : Bytes)
    (context : HookContext) : Workplace :=
  ⟨buffer, own, policy, data, context, [], [], []⟩

/-- The start of the buffer, as a pointer to it. -/
def window (place : Workplace) : Window :=
  ⟨place.buffer, 0⟩

def ids (place : Workplace) : List ContextId :=
  place.held.map Prod.fst

/-! ### Changes -/

section Changes
variable (place : Workplace)

def write (index : Nat) (bytes : Bytes) : Workplace :=
  { place with data := place.data.overwrite index bytes }

def setContext (ctx : HookContext) : Workplace :=
  { place with context := ctx }

def allocate (id : ContextId) (hid : UInt32) : Workplace :=
  { place with held := place.held ++ [(id, .allocated hid)], handed := place.handed ++ [id] }

def release (id : ContextId) : Workplace :=
  { place with held := place.held.filter fun entry => entry.1 != id }

def request (record : RequestRecord) : Workplace :=
  { place with requests := place.requests ++ [record] }

end Changes

end Workplace

/-- Native code in the given surroundings has a workplace. -/
structure Rig.Offers (rig : Rig) (frame : Frame) (place : Workplace) : Prop where
  table : rig.tables frame.file = .armed (some (place.buffer, place.data.length))
  small : place.data.length < UInt64.size
  data : rig.buffers place.buffer = some place.data
  given : frame.given = some place.own
  context : rig.contexts place.own = some place.context
  record : ∃ tracked, rig.armed = some ⟨tracked, place.requests, place.policy⟩ ∧
    tracked.Perm place.ids
  nodup : (place.own :: place.ids).Nodup
  live : ∀ entry ∈ place.held, rig.contexts entry.1 = some entry.2
  gone : ∀ id ∈ place.handed, id ∉ place.ids → rig.contexts id = none

/-- Wherever a workplace is offered, the program ends with a value and a workplace for which a
postcondition holds. -/
def Native.Ensures {α : Type} (body : Native α) (place : Workplace)
    (post : α → Workplace → Prop) : Prop :=
  ∀ frame rig, rig.Offers frame place →
    ∃ last, post (body.run frame rig).1 last ∧ (body.run frame rig).2.1 = frame ∧
      (body.run frame rig).2.2.Offers frame last ∧
      last.handed = place.handed ++ handedOut (body.acts frame rig)

theorem Native.run_bind {α β : Type} (p : Native α) (k : α → Native β) (frame : Frame) (rig : Rig) :
    (p >>= k).run frame rig =
      let (a, frame, rig) := p.run frame rig
      (k a).run frame rig := by
  induction p generalizing frame rig with
  | done a => rfl
  | call service next ih => exact ih _ _ _

theorem Native.acts_bind {α β : Type} (p : Native α) (k : α → Native β) (frame : Frame)
    (rig : Rig) :
    (p >>= k).acts frame rig =
      let (a, frame', rig') := p.run frame rig
      p.acts frame rig ++ (k a).acts frame' rig' := by
  induction p generalizing frame rig with
  | done a => rfl
  | call service next ih => exact congrArg (List.cons _) (ih _ _ _)

/-! ## Single services -/

namespace Rig.Offers
variable {rig : Rig} {frame : Frame} {place : Workplace}

theorem filled (h : rig.Offers frame place) : (rig.tables frame.file).Filled := by
  rw [h.table]
  exact ServiceTable.filled_armed _

theorem getData (h : rig.Offers frame place) (size : UInt64) :
    rig.getData frame.file 0 size =
      if size.toNat ≤ place.data.length then some place.window else none := by
  have length : (UInt64.ofNat place.data.length).toNat = place.data.length :=
    UInt64.toNat_ofNat_of_lt' h.small
  have inside : (0 : UInt32).toUInt64 + size ≤ UInt64.ofNat place.data.length ↔
      size.toNat ≤ place.data.length := by
    rw [UInt64.le_iff_toNat_le, length]
    simp
  have data : (ServiceTable.armed (some (place.buffer, place.data.length))).grants 0 size =
      if size.toNat ≤ place.data.length then some place.buffer else none := by
    simp only [ServiceTable.grants, ServiceTable.armed, inside]
  rw [Rig.getData, h.table, data]
  split <;> rfl

theorem readWindow (h : rig.Offers frame place) (index size : Nat) :
    rig.readWindow { place.window with start := place.window.start + index } size =
      place.data.window index size := by
  simp [Rig.readWindow, Workplace.window, h.data]

theorem writeWindow (h : rig.Offers frame place) (index : Nat) (bytes : Bytes) :
    (rig.writeWindow { place.window with start := place.window.start + index } bytes).Offers frame
      (place.write index bytes) where
  table := by simpa [Rig.writeWindow, Rig.setBuffer, Workplace.write] using h.table
  small := by simpa [Workplace.write] using h.small
  data := by simp [Rig.writeWindow, Rig.setBuffer, Workplace.window, Workplace.write, h.data]
  given := h.given
  context := h.context
  record := h.record
  nodup := h.nodup
  live := h.live
  gone := h.gone

theorem setContext (h : rig.Offers frame place) (ctx : HookContext) :
    (rig.setContext place.own (some ctx)).Offers frame (place.setContext ctx) where
  table := h.table
  small := h.small
  data := h.data
  given := h.given
  context := by simp [Rig.setContext, Workplace.setContext]
  record := h.record
  nodup := h.nodup
  live entry member := by
    have other : entry.1 ≠ place.own := fun same =>
      (List.nodup_cons.mp h.nodup).1 (same ▸ List.mem_map_of_mem member)
    simpa [Rig.setContext, other] using h.live entry member
  gone id old left := by
    have free := h.gone id old left
    have other : id ≠ place.own := by
      rintro rfl
      rw [h.context] at free
      cases free
    simpa [Rig.setContext, other] using free

/-- All that a workplace knows of is in memory. -/
theorem isSome_of_mem (h : rig.Offers frame place) : ∀ id ∈ place.own :: place.ids,
    (rig.contexts id).isSome := by
  intro id member
  rcases List.mem_cons.mp member with rfl | member
  · rw [h.context]
    rfl
  · obtain ⟨entry, there, rfl⟩ := List.mem_map.mp member
    rw [h.live entry there]
    rfl

/-- A context that is asked for is a new one. -/
theorem allocate (h : rig.Offers frame place) (hid : UInt32) :
    ∃ id, id ≠ place.own ∧ id ∉ place.ids ∧ (rig.allocate frame.file hid).1 = some id ∧
      (rig.allocate frame.file hid).2.Offers frame (place.allocate id hid) := by
  obtain ⟨tracked, running, perm⟩ := h.record
  have others : ∀ id ∈ place.own :: place.ids, id ≠ rig.nextContext := fun id member =>
    rig.ne_nextContext (h.isSome_of_mem id member)
  have new : rig.nextContext ∉ place.own :: place.ids := fun member => others _ member rfl
  rw [Rig.allocate_of_armed h.filled running]
  refine ⟨rig.nextContext, fun same => new (same ▸ List.mem_cons_self),
    fun member => new (List.mem_cons_of_mem _ member), rfl, h.table, h.small, h.data, h.given, ?_,
    ⟨_, rfl, ?_⟩, ?_, ?_, ?_⟩
  · exact (rig.newContext_of_ne _ (others place.own List.mem_cons_self)).trans h.context
  · simpa [Workplace.ids, Workplace.allocate] using perm.append_right [rig.nextContext]
  · have longer := h.nodup.concat new
    simpa [Workplace.ids, Workplace.allocate] using longer
  · intro entry member
    rcases List.mem_append.mp member with old | last
    · have other := others entry.1 (List.mem_cons_of_mem _ (List.mem_map_of_mem old))
      exact (rig.newContext_of_ne _ other).trans (h.live entry old)
    · obtain rfl := List.mem_singleton.mp last
      simp [Rig.newContext, Rig.setContext]
  · intro id old left
    have left : id ∉ place.ids ∧ id ≠ rig.nextContext := by
      simpa [Workplace.ids, Workplace.allocate] using left
    have old : id ∈ place.handed :=
      (List.mem_append.mp old).resolve_right fun last => left.2 (List.mem_singleton.mp last)
    exact (rig.newContext_of_ne _ left.2).trans (h.gone id old left.1)

theorem release (h : rig.Offers frame place) {id : ContextId} (member : id ∈ place.ids) :
    (rig.release frame.file (some id)).Offers frame (place.release id) := by
  obtain ⟨tracked, running, perm⟩ := h.record
  obtain ⟨own, nodup⟩ := List.nodup_cons.mp h.nodup
  have left : (place.held.filter fun entry => entry.1 != id).map Prod.fst = place.ids.erase id := by
    rw [nodup.erase_eq_filter, Workplace.ids, List.filter_map]
    rfl
  have kept : ∀ other, other ≠ id → (rig.setContext id none).contexts other = rig.contexts other :=
    fun other apart => if_neg apart
  rw [Rig.release_of_tracked h.filled running (perm.mem_iff.mpr member)]
  refine ⟨h.table, h.small, h.data, h.given, ?_, ⟨_, rfl, ?_⟩, ?_, ?_, ?_⟩
  · have other : place.own ≠ id := fun same => own (same ▸ member)
    exact (kept _ other).trans h.context
  · show (id.takeOff tracked).Perm ((place.held.filter _).map Prod.fst)
    rw [left]
    exact (id.takeOff_perm tracked).trans (perm.erase id)
  · show (place.own :: (place.held.filter _).map Prod.fst).Nodup
    rw [left]
    exact List.nodup_cons.mpr ⟨fun mine => own (List.mem_of_mem_erase mine), nodup.erase id⟩
  · intro entry remains
    obtain ⟨there, apart⟩ := List.mem_filter.mp remains
    exact (kept _ (by simpa using apart)).trans (h.live entry there)
  · show ∀ other ∈ place.handed, other ∉ (place.held.filter _).map Prod.fst → _
    rw [left]
    intro other old off
    by_cases same : other = id
    · subst same
      exact if_pos rfl
    · exact (kept other same).trans
        (h.gone other old fun there => off ((List.mem_erase_of_ne same).mpr there))

/-- A request on a context that is held is recorded with the index of the context. -/
theorem request (h : rig.Offers frame place) {id : ContextId} {ctx : HookContext}
    (member : (id, ctx) ∈ place.held) (data : Option Bytes) (length : Nat)
    (reportType requestKind : Int32) :
    let answer := rig.request frame.file (some id) data length reportType requestKind
    answer.1 = Rig.answer place.policy data length ∧
      answer.2.Offers frame
        (place.request
          ⟨some ctx.index, reportType, requestKind, Rig.requestBuffer data length⟩) := by
  obtain ⟨tracked, running, perm⟩ := h.record
  have listed : id ∈ tracked := perm.mem_iff.mpr (List.mem_map_of_mem member)
  have index : rig.trackedIndex ⟨tracked, place.requests, place.policy⟩ (some id) =
      some ctx.index := by
    simp [Rig.trackedIndex, listed, h.live _ member]
  intro answer
  have outcome : answer = _ :=
    Rig.request_of_armed (some id) data length reportType requestKind h.filled running
  rw [outcome, index]
  exact ⟨rfl, h.table, h.small, h.data, h.given, h.context, ⟨tracked, rfl, perm⟩, h.nodup, h.live,
    h.gone⟩

end Rig.Offers

/-! ## Programs -/

namespace Native.Ensures
variable {α β : Type} {place : Workplace}

theorem done {a : α} {post : α → Workplace → Prop} (h : post a place) :
    (pure a : Native α).Ensures place post :=
  fun _ _ offers => ⟨place, h, rfl, offers, (List.append_nil _).symm⟩

theorem mono {body : Native α} {post weaker : α → Workplace → Prop} (h : body.Ensures place post)
    (imp : ∀ a last, post a last → weaker a last) : body.Ensures place weaker := by
  intro frame rig offers
  obtain ⟨last, holds, rest⟩ := h frame rig offers
  exact ⟨last, imp _ last holds, rest⟩

/-- A single service that hands out no context, by what it answers and the state after it. -/
theorem ask {service : Service} {post : service.Reply → Workplace → Prop}
    (silent : ∀ frame rig, (Act.served rig frame service).handsOut? = none)
    (h : ∀ frame (rig : Rig), rig.Offers frame place →
      ∃ last, post (rig.serve frame service).1 last ∧ (rig.serve frame service).2.1 = frame ∧
        (rig.serve frame service).2.2.Offers frame last ∧ last.handed = place.handed) :
    (Native.ask service).Ensures place post := by
  intro frame rig offers
  obtain ⟨last, holds, same, after, handed⟩ := h frame rig offers
  refine ⟨last, holds, same, after, ?_⟩
  show _ = _ ++ List.filterMap _ [Act.served rig frame service]
  rw [List.filterMap_cons_none (silent frame rig), List.filterMap_nil, List.append_nil, handed]

theorem bind {p : Native α} {k : α → Native β} {post : β → Workplace → Prop}
    (h : p.Ensures place fun a next => (k a).Ensures next post) :
    (p >>= k).Ensures place post := by
  intro frame rig offers
  obtain ⟨mid, rest, same, after, first⟩ := h frame rig offers
  obtain ⟨last, holds, kept, ends, second⟩ := rest frame _ after
  rw [Native.run_bind, Native.acts_bind]
  dsimp only
  rw [same, handedOut, List.filterMap_append, ← List.append_assoc]
  exact ⟨last, holds, kept, ends, second.trans (congrArg (· ++ _) first)⟩

/-! ### Data -/

section Data
variable {window : Window} (start : window = place.window) (index size : Nat) (bytes : Bytes)
include start

theorem read {post : Bytes → Workplace → Prop} (h : post (place.data.window index size) place) :
    (Native.read window index size).Ensures place post := by
  subst start
  refine ask (fun _ _ => rfl) fun frame rig offers => ⟨place, ?_, rfl, offers, rfl⟩
  show post (rig.readWindow _ size) place
  rw [offers.readWindow index size]
  exact h

theorem write {post : Unit → Workplace → Prop}
    (h : post () (place.write index bytes)) :
    (Native.write window index bytes).Ensures place post := by
  subst start
  exact ask (fun _ _ => rfl) fun _ _ offers => ⟨_, h, rfl, offers.writeWindow index bytes, rfl⟩

end Data

/-- A hook that needs more data than there are does nothing. -/
theorem withData {size : UInt64} {body : Window → Native Int32} {post : Int32 → Workplace → Prop}
    (short : place.data.length < size.toNat → post 0 place)
    (enough : size.toNat ≤ place.data.length → (body place.window).Ensures place post) :
    (Fixture.withData size body).Ensures place post := by
  refine bind (ask (fun _ _ => rfl) fun frame rig offers => ⟨place, ?_, rfl, offers, rfl⟩)
  have answer : (rig.serve frame (.getData 0 size)).1 = _ := offers.getData size
  rw [answer]
  by_cases fits : size.toNat ≤ place.data.length
  · rw [if_pos fits]
    exact enough fits
  · rw [if_neg fits]
    exact done (short (Nat.lt_of_not_le fits))

theorem withData_of_le {size : UInt64} {body : Window → Native Int32}
    {post : Int32 → Workplace → Prop} (enough : size.toNat ≤ place.data.length)
    (h : (body place.window).Ensures place post) : (Fixture.withData size body).Ensures place post :=
  withData (fun short => absurd enough (Nat.not_le.mpr short)) fun _ => h

/-! ### Contexts -/

theorem context {post : HookContext → Workplace → Prop} (h : post place.context place) :
    Native.context.Ensures place post := by
  refine bind (ask (fun _ _ => rfl) fun frame rig offers => ⟨place, ?_, rfl, offers, rfl⟩)
  have given : (rig.serve frame .given).1 = some place.own := offers.given
  rw [given]
  refine bind (ask (fun _ _ => rfl) fun frame rig offers => ⟨place, ?_, rfl, offers, rfl⟩)
  have there : (rig.serve frame (.readContext place.own)).1 = some place.context := offers.context
  rw [there]
  exact done h

theorem setContext {ctx : HookContext} {post : Unit → Workplace → Prop}
    (h : post () (place.setContext ctx)) : (Native.setContext ctx).Ensures place post := by
  refine bind (ask (fun _ _ => rfl) fun frame rig offers => ⟨place, ?_, rfl, offers, rfl⟩)
  have given : (rig.serve frame .given).1 = some place.own := offers.given
  rw [given]
  refine ask (fun _ _ => rfl) fun frame rig offers =>
    ⟨place.setContext ctx, h, rfl, ?_, rfl⟩
  show (rig.setContext place.own ((rig.contexts place.own).map fun _ => ctx)).Offers frame _
  rw [offers.context]
  exact offers.setContext ctx

theorem allocate {hid : UInt32} {post : ContextRef → Workplace → Prop}
    (h : ∀ id, id ≠ place.own → id ∉ place.ids → post (some id) (place.allocate id hid)) :
    (Native.allocate hid).Ensures place post := by
  intro frame rig offers
  obtain ⟨id, other, new, answer, after⟩ := offers.allocate hid
  have value : ((Native.allocate hid).run frame rig).1 = some id := answer
  have handed : handedOut ((Native.allocate hid).acts frame rig) = [id] :=
    List.filterMap_cons_some answer
  rw [value, handed]
  exact ⟨_, h id other new, rfl, after, rfl⟩

theorem release {id : ContextId} (member : id ∈ place.ids) {post : Unit → Workplace → Prop}
    (h : post () (place.release id)) :
    (Native.release (some id)).Ensures place post :=
  ask (fun _ _ => rfl) fun _ _ offers => ⟨_, h, rfl, offers.release member, rfl⟩

/-! ### Requests -/

theorem request {id : ContextId} {ctx : HookContext} (member : (id, ctx) ∈ place.held) {data : Bytes}
    {reportType : ReportType} {kind : RequestKind} {post : Int32 × Bytes → Workplace → Prop}
    (h : post (place.policy.answer data)
      (place.request ⟨some ctx.index, reportType.raw, kind.raw, data⟩)) :
    (Native.request (some id) data reportType kind).Ensures place post := by
  refine bind (ask (fun _ _ => rfl) fun frame rig offers => ?_)
  obtain ⟨answer, after⟩ := offers.request member (some data) data.length reportType.raw kind.raw
  have whole : Rig.requestBuffer (some data) data.length = data := List.take_length
  have value : (rig.serve frame (.request (some id) (some data) data.length reportType.raw
      kind.raw)).1 = ((place.policy.answer data).1, some (place.policy.answer data).2) := by
    refine answer.trans ?_
    simp [Rig.answer, whole]
  rw [whole] at after
  rw [value]
  exact ⟨_, done h, rfl, after, rfl⟩

end Native.Ensures

end HidRig
