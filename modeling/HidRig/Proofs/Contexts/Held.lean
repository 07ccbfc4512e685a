import HidRig.Proofs.Session.Acts
import Mathlib.Data.List.Induction

/-! # What native code holds

The contexts and requests of a call, told from the record of its native code alone. Only the
answers that the code got and the pointers that it gave count, not what the rig keeps.

* `Outstanding`: a context was handed out and not given back since.
* `Returned`: a context was given back and not handed out since.
* `held`: the outstanding contexts as a list, by `mem_held_iff`.
* `handedOut`, `takenBack`: all contexts handed out, and those given back while they were held.
* `owned`: the contexts that the code made itself.
* `requestsOf`: the requests made, each with the index of its context if that was held.
-/

namespace HidRig

namespace Act

/-- The context that an act hands out. -/
def handsOut? : Act → ContextRef
  | .served before frame (.allocate hid) => (before.allocate frame.file hid).1
  | _ => none

/-- The context that the code makes itself by an act. -/
def owns? : Act → ContextRef
  | .served before _ (.ownContext _) => some before.nextContext
  | _ => none

/-- The pointer that an act gives back. -/
def givesBack? : Act → ContextRef
  | .served _ _ (.release ctx) => ctx
  | _ => none

/-- The contexts that are held after an act, by those that were held before it. -/
def hold (ids : List ContextId) (act : Act) : List ContextId :=
  ids.filter (fun id => act.givesBack? ≠ some id) ++ act.handsOut?.toList

/-- The context that an act takes back, out of those that are held. -/
def takesBack? (ids : List ContextId) (act : Act) : ContextRef :=
  act.givesBack?.filter fun id => id ∈ ids

/-- The request that an act makes, while some contexts are held. -/
def request? (ids : List ContextId) : Act → Option RequestRecord
  | .served before _ (.request ctx data length reportType requestKind) =>
    let index := (ctx.filter fun id => id ∈ ids).bind fun id =>
      (before.contexts id).map HookContext.index
    some ⟨index, reportType, requestKind, Rig.requestBuffer data length⟩
  | _ => none

end Act

/-- A context was handed out by one of some acts, and none gave it back since. -/
def Outstanding (acts : List Act) (id : ContextId) : Prop :=
  ∃ pre act post, acts = pre ++ act :: post ∧ act.handsOut? = some id ∧
    ∀ later ∈ post, later.givesBack? ≠ some id

/-- A context was given back by one of some acts, and none handed it out since. -/
def Returned (acts : List Act) (id : ContextId) : Prop :=
  ∃ pre act post, acts = pre ++ act :: post ∧ act.givesBack? = some id ∧
    ∀ later ∈ post, later.handsOut? ≠ some id

/-- The contexts that are held after some acts. -/
def held (acts : List Act) : List ContextId :=
  acts.foldl Act.hold []

/-- What each act of a record notes, by the contexts that are held before it. -/
def noted {α : Type} (note : List ContextId → Act → Option α) (ids : List ContextId) :
    List Act → List α
  | [] => []
  | act :: acts => (note ids act).toList ++ noted note (act.hold ids) acts

/-- The contexts handed out, in order. -/
def handedOut (acts : List Act) : List ContextId :=
  acts.filterMap Act.handsOut?

/-- The contexts that the code made itself, in order. -/
def owned (acts : List Act) : List ContextId :=
  acts.filterMap Act.owns?

/-- The contexts taken back, in order. -/
def takenBack (acts : List Act) : List ContextId :=
  noted Act.takesBack? [] acts

/-- The requests made, in order. -/
def requestsOf (acts : List Act) : List RequestRecord :=
  noted Act.request? [] acts

/-! ## One act more -/

section Concat
variable {α : Type} (acts : List Act) (act : Act)

theorem held_concat : held (acts ++ [act]) = act.hold (held acts) := by
  simp [held]

theorem mem_held_concat (id : ContextId) :
    id ∈ held (acts ++ [act]) ↔
      (id ∈ held acts ∧ act.givesBack? ≠ some id) ∨ act.handsOut? = some id := by
  simp [held_concat, Act.hold]

theorem noted_append (note : List ContextId → Act → Option α) :
    ∀ (ids : List ContextId) (xs ys : List Act),
      noted note ids (xs ++ ys) = noted note ids xs ++ noted note (xs.foldl Act.hold ids) ys
  | _, [], _ => rfl
  | ids, first :: xs, ys => by
    rw [List.cons_append, noted, noted_append note (first.hold ids) xs, noted, List.foldl_cons,
      List.append_assoc]

theorem noted_concat (note : List ContextId → Act → Option α) (ids : List ContextId)
    (acts : List Act) :
    noted note ids (acts ++ [act]) =
      noted note ids acts ++ (note (acts.foldl Act.hold ids) act).toList := by
  rw [noted_append, noted, noted, List.append_nil]

theorem takenBack_concat :
    takenBack (acts ++ [act]) = takenBack acts ++ (act.takesBack? (held acts)).toList :=
  noted_concat act _ [] acts

theorem requestsOf_concat :
    requestsOf (acts ++ [act]) = requestsOf acts ++ (act.request? (held acts)).toList :=
  noted_concat act _ [] acts

theorem handedOut_concat : handedOut (acts ++ [act]) = handedOut acts ++ act.handsOut?.toList := by
  cases h : act.handsOut? <;> simp [handedOut, h]

theorem owned_concat : owned (acts ++ [act]) = owned acts ++ act.owns?.toList := by
  cases h : act.owns? <;> simp [owned, h]

end Concat

/-- The contexts that are held are those that are outstanding. -/
theorem mem_held_iff (acts : List Act) (id : ContextId) :
    id ∈ held acts ↔ Outstanding acts id := by
  unfold Outstanding
  induction acts using List.reverseRecOn with
  | nil => simp [held]
  | append_singleton acts last ih =>
    rw [mem_held_concat, ih]
    constructor
    · rintro (⟨⟨pre, act, post, rfl, hout, hkept⟩, hlast⟩ | hout)
      · refine ⟨pre, act, post ++ [last], by simp, hout, ?_⟩
        intro later hlater
        rcases List.mem_append.mp hlater with hpost | hsingle
        · exact hkept later hpost
        · rw [List.mem_singleton.mp hsingle]
          exact hlast
      · exact ⟨acts, last, [], by simp, hout, by simp⟩
    · rintro ⟨pre, act, post, heq, hout, hkept⟩
      rcases List.eq_nil_or_concat post with rfl | ⟨front, final, rfl⟩
      · have hlast := (List.append_inj' heq rfl).2
        cases hlast
        exact .inr hout
      · rw [List.concat_eq_append, ← List.cons_append, ← List.append_assoc] at heq
        obtain ⟨rfl, hlast⟩ := List.append_inj' heq rfl
        cases hlast
        refine .inl ⟨⟨pre, act, front, rfl, hout, ?_⟩, hkept last (by simp)⟩
        intro later hlater
        exact hkept later (by simp [hlater])

theorem Act.handsOut?_of_givesBack? {act : Act} {id : ContextId} (h : act.givesBack? = some id) :
    act.handsOut? = none := by
  cases act with
  | served before frame service => cases service <;> first | rfl | cases h
  | _ => rfl

/-- A context that was given back is not held, unless it was handed out again. -/
theorem Returned.not_mem_held {acts : List Act} {id : ContextId} (h : Returned acts id) :
    id ∉ held acts := by
  obtain ⟨pre, act, post, rfl, back, kept⟩ := h
  induction post using List.reverseRecOn with
  | nil =>
    rw [mem_held_concat, Act.handsOut?_of_givesBack? back]
    simp [back]
  | append_singleton post last ih =>
    rw [← List.cons_append, ← List.append_assoc, mem_held_concat]
    rintro (⟨before, -⟩ | out)
    · exact ih (fun later member => kept later (List.mem_append_left _ member)) before
    · exact kept last (by simp) out

end HidRig
