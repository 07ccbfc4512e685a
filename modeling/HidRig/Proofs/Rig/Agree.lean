import HidRig.Proofs.Native.Alike
import HidRig.Proofs.Contexts.Held
import HidRig.Proofs.Rig.Bridge
import Mathlib.Data.List.Forall2
import Mathlib.Data.List.Nodup

/-! # Rigs that agree but for addresses

In the middle of a call, all that native code can learn from the rig is in its table, its record and
the memory that it has addresses of. Two rigs agree under a renaming if these are the same. Programs
that are alike then run alike.

* `Act.makes?`, `contextsMade`: the contexts that are made.
* `Pairing.Admits`: what is to come makes no context in the way of one that is known.
* `Rig.SameMemory`: memories that agree.
* `Rig.Agrees`: rigs that agree, each with the surroundings of its native code.
* `Rig.Agrees.serve`: a step keeps this, and is answered alike.
* `Native.Alike.run`: so does a program.
-/

namespace HidRig

/-- The context that an act makes. -/
def Act.makes? (act : Act) : ContextRef :=
  act.handsOut?.or act.owns?

/-- The contexts that are made, in order. -/
def contextsMade (acts : List Act) : List ContextId :=
  acts.filterMap Act.makes?

theorem contextsMade_cons (act : Act) (acts : List Act) :
    contextsMade (act :: acts) = act.makes?.toList ++ contextsMade acts := by
  cases h : act.makes? <;> simp [contextsMade, h]

/-- The contexts of one list stand for those of another, in order, as long as there are any. -/
def Renaming.Matches (ren : Renaming ContextId) (xs ys : List ContextId) : Prop :=
  ∀ (k : Nat) i j, xs[k]? = some i → ys[k]? = some j → ren i j

/-- Contexts of which no two have the same address can be matched. -/
theorem Renaming.exists_matches {xs ys : List ContextId} (distinct : xs.Nodup)
    (distinct' : ys.Nodup) : ∃ ren : Renaming ContextId, ren.Matches xs ys := by
  have place {zs : List ContextId} (nodup : zs.Nodup) {k l : Nat} {i : ContextId}
      (hk : zs[k]? = some i) (hl : zs[l]? = some i) : k = l :=
    (List.getElem?_inj (List.getElem?_eq_some_iff.mp hk).1 nodup).mp (hk.trans hl.symm)
  refine ⟨⟨fun i j => ∃ k, xs[k]? = some i ∧ ys[k]? = some j, ?_, ?_⟩,
    fun k i j hi hj => ⟨k, hi, hj⟩⟩
  · rintro i i' j ⟨k, hi, hj⟩ ⟨l, hi', hj'⟩
    obtain rfl := place distinct' hj hj'
    exact Option.some.inj (hi.symm.trans hi')
  · rintro i j j' ⟨k, hi, hj⟩ ⟨l, hi', hj'⟩
    obtain rfl := place distinct hi hi'
    exact Option.some.inj (hj.symm.trans hj')

/-! ## Contexts that are known -/

namespace Pairing
variable {pairs : Pairing} {span : Recall} {i j : ContextId} {xs ys : List ContextId}

/-- The contexts that two runs are still to make stand for each other, and so do those that are
known. This is asked only if contexts are known that may not be in memory. -/
def Admits (pairs : Pairing) : Recall → (xs ys : List ContextId) → Prop
  | .brief, _, _ => True
  | .lasting, xs, ys =>
    ∃ ren : Renaming ContextId, (∀ x y, pairs.known x y → ren x y) ∧ ren.Matches xs ys

theorem Admits.release (h : pairs.Admits span xs ys) (ctx : ContextRef) :
    (pairs.release ctx).Admits span xs ys := by
  cases span with
  | brief => trivial
  | lasting => cases ctx <;> exact h

/-- There is room for the next contexts beside those that are known. -/
theorem Admits.room (h : pairs.Admits span (i :: xs) (j :: ys))
    (fresh : ∀ x y, pairs.lent x y ∨ pairs.held x y → x ≠ i ∧ y ≠ j) :
    ∀ x y, pairs.Outlasts span x y → (x = i ↔ y = j) := by
  intro x y outlasts
  cases span with
  | brief =>
    obtain ⟨apart, apart'⟩ := fresh x y outlasts
    exact iff_of_false apart apart'
  | lasting =>
    obtain ⟨ren, le, matching⟩ := h
    exact ren.iff (le x y outlasts) (matching 0 i j rfl rfl)

/-- The pairs with another that was made, lent to native code or held by it. -/
def make (pairs : Pairing) (span : Recall) (lends : Bool) (i j : ContextId)
    (room : ∀ x y, pairs.Outlasts span x y → (x = i ↔ y = j)) : Pairing where
  known := pairs.known.extend (pairs.Outlasts span) (fun _ _ => pairs.known_of_outlasts) i j room
  lent x y := pairs.lent x y ∨ lends = true ∧ x = i ∧ y = j
  held x y := pairs.held x y ∨ lends = false ∧ x = i ∧ y = j
  known_of_lent := by
    rintro x y (h | ⟨-, new⟩)
    · cases span with
      | brief => exact .inl (.inl h)
      | lasting => exact .inl (pairs.known_of_lent h)
    · exact .inr new
  known_of_held := by
    rintro x y (h | ⟨-, new⟩)
    · cases span with
      | brief => exact .inl (.inr h)
      | lasting => exact .inl (pairs.known_of_held h)
    · exact .inr new

section Make
variable {lends : Bool} {room : ∀ x y, pairs.Outlasts span x y → (x = i ↔ y = j)}

theorem makes_make : pairs.Makes span i j (pairs.make span lends i j room) where
  made := .inr ⟨rfl, rfl⟩
  known _ _ h := .inl h
  lent _ _ h := .inl h
  held _ _ h := .inl h

theorem Admits.make (h : pairs.Admits span (i :: xs) (j :: ys)) :
    (pairs.make span lends i j room).Admits span xs ys := by
  cases span with
  | brief => trivial
  | lasting =>
    obtain ⟨ren, le, matching⟩ := h
    refine ⟨ren, ?_, fun k => matching (k + 1)⟩
    rintro x y (old | ⟨rfl, rfl⟩)
    · exact le x y old
    · exact matching 0 x y rfl rfl

end Make

/-! ### Lists -/

theorem mem_iff (h : List.Forall₂ pairs.held xs ys) (hij : pairs.known i j) : i ∈ xs ↔ j ∈ ys :=
  List.rel_mem pairs.known.unique hij (h.imp fun _ _ => pairs.known_of_held)

theorem getLast? {rel : ContextId → ContextId → Prop} : ∀ {xs ys : List ContextId},
    List.Forall₂ rel xs ys → List.Forall₂ rel xs.getLast?.toList ys.getLast?.toList
  | _, _, .nil => .nil
  | _, _, .cons head .nil => .cons head .nil
  | _, _, .cons _ (.cons head tail) => by
    rw [List.getLast?_cons_cons, List.getLast?_cons_cons]
    exact getLast? (.cons head tail)

theorem dropLast {rel : ContextId → ContextId → Prop} : ∀ {xs ys : List ContextId},
    List.Forall₂ rel xs ys → List.Forall₂ rel xs.dropLast ys.dropLast
  | _, _, .nil => .nil
  | _, _, .cons _ .nil => .nil
  | _, _, .cons first (.cons head tail) => .cons first (dropLast (.cons head tail))

theorem takeOff (h : List.Forall₂ pairs.held xs ys) (hij : pairs.known i j) :
    List.Forall₂ pairs.held (i.takeOff xs) (j.takeOff ys) := by
  induction h with
  | nil => exact .nil
  | @cons x y _ _ head tail ih =>
    have same := pairs.known.iff (pairs.known_of_held head) hij
    rw [ContextId.takeOff, ContextId.takeOff]
    by_cases hx : x = i
    · rw [if_pos hx, if_pos (same.mp hx)]
      exact List.rel_append (getLast? tail) (dropLast tail)
    · rw [if_neg hx, if_neg fun hy => hx (same.mpr hy)]
      exact .cons head ih

end Pairing

/-! ## Rigs -/

/-- Records that are the same but for addresses. -/
structure Armed.Agrees (pairs : Pairing) (a b : Armed) : Prop where
  tracked : List.Forall₂ pairs.held a.tracked b.tracked
  nodup : a.tracked.Nodup
  /-- What is lent is not on the list. -/
  apart : ∀ i j, pairs.lent i j → i ∉ a.tracked
  requests : a.requests = b.requests
  policy : a.policy = b.policy

/-- Two memories that are the same at addresses that stand for each other. -/
structure Rig.SameMemory (buffers : Renaming BufferId) (pairs : Pairing) (r s : Rig) : Prop where
  contexts : ∀ i j, pairs.known i j → r.contexts i = s.contexts j
  buffers : ∀ i j, buffers i j → r.buffers i = s.buffers j
  live : ∀ i j, pairs.lent i j ∨ pairs.held i j → (r.contexts i).isSome

/-- Two rigs, each with the surroundings of its native code, that are the same to that code but for
addresses. -/
structure Rig.Agrees (buffers : Renaming BufferId) (pairs : Pairing) (f : Frame) (r : Rig) (g : Frame)
    (s : Rig) : Prop where
  given : Option.Rel pairs.lent f.given g.given
  args : f.args = g.args
  filled_left : (r.tables f.file).Filled
  filled_right : (s.tables g.file).Filled
  data : Option.Rel buffers.rel (r.tables f.file).data (s.tables g.file).data
  dataLen : (r.tables f.file).dataLen = (s.tables g.file).dataLen
  armed : ∃ a b, r.armed = some a ∧ s.armed = some b ∧ a.Agrees pairs b
  memory : Rig.SameMemory buffers pairs r s

/-! ## Changes on both sides -/

section Memory
variable {buffers : Renaming BufferId} {pairs : Pairing} {span : Recall} {r s : Rig}
  {xs ys : List ContextId}

/-- A write on both sides is seen at places of which both are written, or neither. -/
theorem Rig.contexts_setContext {i j x y : ContextId} (same : x = i ↔ y = j)
    (before : r.contexts x = s.contexts y) (ctx? : Option HookContext) :
    (r.setContext i ctx?).contexts x = (s.setContext j ctx?).contexts y := by
  by_cases hx : x = i
  · simp [Rig.setContext, hx, same.mp hx]
  · simp [Rig.setContext, hx, mt same.mpr hx, before]

namespace Rig.SameMemory

theorem setContext (h : Rig.SameMemory buffers pairs r s) {i j : ContextId} (hij : pairs.known i j)
    {ctx? : Option HookContext} (stays : (r.contexts i).isSome → ctx?.isSome) :
    Rig.SameMemory buffers pairs (r.setContext i ctx?) (s.setContext j ctx?) := by
  refine ⟨fun i' j' hij' => ?_, h.buffers, fun i' j' there => ?_⟩
  · exact Rig.contexts_setContext (pairs.known.iff hij' hij) (h.contexts i' j' hij') _
  · by_cases hi : i' = i
    · subst hi
      simpa [Rig.setContext] using stays (h.live i' j' there)
    · simpa [Rig.setContext, hi] using h.live i' j' there

/-- A context that is known is gone on both sides, and nothing else that is lent or held. -/
theorem free (h : Rig.SameMemory buffers pairs r s) {i j : ContextId} (hij : pairs.known i j)
    (apart : ∀ j, ¬ pairs.lent i j) :
    Rig.SameMemory buffers (pairs.release (some i)) (r.setContext i none) (s.setContext j none) := by
  refine ⟨fun i' j' hij' => ?_, h.buffers, fun i' j' there => ?_⟩
  · exact Rig.contexts_setContext (pairs.known.iff hij' hij) (h.contexts i' j' hij') _
  · have hi : i' ≠ i := there.elim (fun lent same => apart j' (same ▸ lent)) fun held => held.1
    simpa [Rig.setContext, hi] using h.live i' j' (there.imp_right fun held => held.2)

/-- Contexts in memory are not in the way of the next ones. -/
theorem room (h : Rig.SameMemory buffers pairs r s)
    (admits : pairs.Admits span (r.nextContext :: xs) (s.nextContext :: ys)) :
    ∀ x y, pairs.Outlasts span x y → (x = r.nextContext ↔ y = s.nextContext) := by
  refine admits.room fun x y there => ?_
  have live := h.live x y there
  have known : pairs.known x y := there.elim pairs.known_of_lent pairs.known_of_held
  exact ⟨r.ne_nextContext live, s.ne_nextContext (h.contexts x y known ▸ live)⟩

theorem next_not_mem (h : Rig.SameMemory buffers pairs r s) (hxs : List.Forall₂ pairs.held xs ys) :
    r.nextContext ∉ xs := by
  have others : List.Forall₂ (fun x y => x ≠ r.nextContext ∧ pairs.held x y) xs ys :=
    hxs.imp fun x y held => ⟨r.ne_nextContext (h.live x y (.inr held)), held⟩
  exact fun member => ((List.forall₂_and_left _ _).mp others).1 _ member rfl

theorem newContext (h : Rig.SameMemory buffers pairs r s) (lends : Bool)
    (room : ∀ x y, pairs.Outlasts span x y → (x = r.nextContext ↔ y = s.nextContext))
    (ctx : HookContext) :
    Rig.SameMemory buffers (pairs.make span lends r.nextContext s.nextContext room)
      (r.newContext ctx).2 (s.newContext ctx).2 := by
  refine ⟨?_, h.buffers, fun x y there => ?_⟩
  · rintro x y (old | ⟨rfl, rfl⟩)
    · have before := h.contexts x y (pairs.known_of_outlasts old)
      exact Rig.contexts_setContext (room x y old) before _
    · simp [Rig.newContext, Rig.setContext]
  · have old : pairs.lent x y ∨ pairs.held x y ∨ x = r.nextContext := by
      rcases there with (lent | ⟨-, new, -⟩) | (held | ⟨-, new, -⟩)
      · exact .inl lent
      · exact .inr (.inr new)
      · exact .inr (.inl held)
      · exact .inr (.inr new)
    rcases or_assoc.mpr old with there | rfl
    · have live := h.live x y there
      rw [r.newContext_of_live ctx live]
      exact live
    · simp [Rig.newContext, Rig.setContext]

theorem setBuffer (h : Rig.SameMemory buffers pairs r s) {i j : BufferId} (hij : buffers i j)
    (bytes? : Option Bytes) :
    Rig.SameMemory buffers pairs (r.setBuffer i bytes?) (s.setBuffer j bytes?) := by
  refine ⟨h.contexts, fun i' j' hij' => ?_, h.live⟩
  have same := buffers.iff hij' hij
  by_cases hi : i' = i
  · simp [Rig.setBuffer, hi, same.mp hi]
  · simp [Rig.setBuffer, hi, mt same.mpr hi, h.buffers i' j' hij']

end Rig.SameMemory

end Memory

namespace Rig.Agrees
variable {buffers : Renaming BufferId} {pairs : Pairing} {span : Recall} {f g : Frame}
  {r s : Rig} {xs ys : List ContextId}

theorem setArmed (h : Rig.Agrees buffers pairs f r g s) {a b : Armed} (hab : a.Agrees pairs b) :
    Rig.Agrees buffers pairs f { r with armed := some a } g { s with armed := some b } :=
  { h with
    armed := ⟨a, b, rfl, rfl, hab⟩
    memory := ⟨h.memory.contexts, h.memory.buffers, h.memory.live⟩ }

/-- What is reported and printed is of no account. -/
theorem setLog (h : Rig.Agrees buffers pairs f r g s) (log log' : List Event)
    (output output' : String) :
    Rig.Agrees buffers pairs f { r with log, output } g { s with log := log', output := output' } :=
  { h with memory := ⟨h.memory.contexts, h.memory.buffers, h.memory.live⟩ }

/-- The start of a call, over memories that agree. -/
theorem arm (memory : Rig.SameMemory buffers pairs r s) (given : Option.Rel pairs.lent f.given g.given)
    (args : f.args = g.args) {b b' : Option (BufferId × Nat)}
    (attached : Option.Rel (fun x y => buffers x.1 y.1 ∧ x.2 = y.2) b b')
    (policy : RequestPolicy) :
    Rig.Agrees buffers pairs f (r.arm f.file b policy) g (s.arm g.file b' policy) where
  given := given
  args := args
  filled_left := by
    rw [Rig.arm_table]
    exact ServiceTable.filled_armed b
  filled_right := by
    rw [Rig.arm_table]
    exact ServiceTable.filled_armed b'
  data := by
    rw [Rig.arm_table, Rig.arm_table]
    cases attached with
    | none => exact .none
    | some same => exact .some same.1
  dataLen := by
    rw [Rig.arm_table, Rig.arm_table]
    cases attached with
    | none => rfl
    | some same => exact congrArg UInt64.ofNat same.2
  armed := ⟨_, _, r.arm_armed b policy, s.arm_armed b' policy, .nil, .nil,
    fun _ _ _ => List.not_mem_nil, rfl, rfl⟩
  memory := by
    refine ⟨?_, ?_, ?_⟩
    · simpa using memory.contexts
    · simpa using memory.buffers
    · simpa using memory.live

/-- The end of a call: what is reported is the same, and so is what is left of its memory. -/
theorem disarm (h : Rig.Agrees buffers pairs f r g s) (file file' : FileId) :
    (r.disarm file).1 = (s.disarm file').1 ∧
      (∀ i j, pairs.known i j → (r.disarm file).2.contexts i = (s.disarm file').2.contexts j) ∧
      ∀ i j, buffers i j → (r.disarm file).2.buffers i = (s.disarm file').2.buffers j := by
  obtain ⟨a, b, ha, hb, hab⟩ := h.armed
  rw [Rig.disarm_of_armed ha, Rig.disarm_of_armed hb, hab.requests, hab.tracked.length_eq]
  refine ⟨rfl, fun i j hij => ?_, h.memory.buffers⟩
  have same := Pairing.mem_iff hab.tracked hij
  by_cases hi : i ∈ a.tracked
  · simp [Rig.reportAll, Rig.freeContexts, Rig.setTable, hi, same.mp hi]
  · simp [Rig.reportAll, Rig.freeContexts, Rig.setTable, hi, mt same.mpr hi,
      h.memory.contexts i j hij]

/-! ## The services -/

theorem grants (h : Rig.Agrees buffers pairs f r g s) (offset : UInt32) (size : UInt64) :
    Option.Rel buffers.rel ((r.tables f.file).grants offset size)
      ((s.tables g.file).grants offset size) := by
  unfold ServiceTable.grants
  rw [h.dataLen]
  split
  · exact h.data
  · exact .none

theorem getData (h : Rig.Agrees buffers pairs f r g s) (offset : UInt32) (size : UInt64) :
    Option.Rel (Window.Alike buffers) (r.getData f.file offset size)
      (s.getData g.file offset size) := by
  have granted := h.grants offset size
  unfold Rig.getData
  generalize (r.tables f.file).grants offset size = x at granted ⊢
  generalize (s.tables g.file).grants offset size = y at granted ⊢
  cases granted with
  | none => exact .none
  | some buffer => exact .some ⟨buffer, rfl⟩

theorem readWindow (h : Rig.Agrees buffers pairs f r g s) {w w' : Window} (hw : w.Alike buffers w')
    (size : Nat) : r.readWindow w size = s.readWindow w' size := by
  rw [Rig.readWindow, Rig.readWindow, h.memory.buffers _ _ hw.buffer, hw.start]

theorem writeWindow (h : Rig.Agrees buffers pairs f r g s) {w w' : Window} (hw : w.Alike buffers w')
    (bytes : Bytes) :
    Rig.Agrees buffers pairs f (r.writeWindow w bytes) g (s.writeWindow w' bytes) := by
  rw [Rig.writeWindow, Rig.writeWindow, h.memory.buffers _ _ hw.buffer, hw.start]
  exact { h with memory := h.memory.setBuffer hw.buffer _ }

/-- The given contexts are lent, and all that follows from this. -/
theorem given_of_lent (h : Rig.Agrees buffers pairs f r g s) {rel : ContextId → ContextId → Prop}
    (le : ∀ x y, pairs.lent x y → rel x y) : Option.Rel rel f.given g.given := by
  have given := h.given
  generalize f.given = x at given ⊢
  generalize g.given = y at given ⊢
  cases given with
  | none => exact .none
  | some lent => exact .some (le _ _ lent)

theorem allocate (h : Rig.Agrees buffers pairs f r g s)
    (room : ∀ x y, pairs.Outlasts span x y → (x = r.nextContext ↔ y = s.nextContext))
    (hid : UInt32) :
    (r.allocate f.file hid).1 = some r.nextContext ∧ (s.allocate g.file hid).1 = some s.nextContext ∧
      Rig.Agrees buffers (pairs.make span false r.nextContext s.nextContext room) f
        (r.allocate f.file hid).2 g (s.allocate g.file hid).2 := by
  obtain ⟨a, b, ha, hb, hab⟩ := h.armed
  rw [Rig.allocate_of_armed h.filled_left ha, Rig.allocate_of_armed h.filled_right hb]
  have added : Armed.Agrees (pairs.make span false r.nextContext s.nextContext room)
      { a with tracked := a.tracked ++ [r.nextContext] }
      { b with tracked := b.tracked ++ [s.nextContext] } := by
    refine ⟨?_, ?_, ?_, hab.requests, hab.policy⟩
    · exact List.rel_append (hab.tracked.imp fun _ _ => .inl) (.cons (.inr ⟨rfl, rfl, rfl⟩) .nil)
    · simpa using List.Nodup.concat (h.memory.next_not_mem hab.tracked) hab.nodup
    · rintro i j (lent | ⟨no, -⟩) member
      · rcases List.mem_append.mp member with old | new
        · exact hab.apart i j lent old
        · exact r.ne_nextContext (h.memory.live i j (.inl lent)) (List.mem_singleton.mp new)
      · cases no
  have made := h.memory.newContext false room (.allocated hid)
  exact ⟨rfl, rfl,
    { h with
      given := h.given_of_lent fun _ _ => .inl
      armed := ⟨_, _, rfl, rfl, added⟩
      memory := ⟨made.contexts, made.buffers, made.live⟩ }⟩

theorem ownContext (h : Rig.Agrees buffers pairs f r g s)
    (room : ∀ x y, pairs.Outlasts span x y → (x = r.nextContext ↔ y = s.nextContext))
    (ctx : HookContext) :
    Rig.Agrees buffers (pairs.make span true r.nextContext s.nextContext room) f
      (r.newContext ctx).2 g (s.newContext ctx).2 := by
  obtain ⟨a, b, ha, hb, hab⟩ := h.armed
  have kept : Armed.Agrees (pairs.make span true r.nextContext s.nextContext room) a b := by
    refine ⟨hab.tracked.imp fun _ _ => .inl, hab.nodup, ?_, hab.requests, hab.policy⟩
    rintro i j (lent | ⟨-, rfl, -⟩) member
    · exact hab.apart i j lent member
    · exact h.memory.next_not_mem hab.tracked member
  exact
    { h with
      given := h.given_of_lent fun _ _ => .inl
      armed := ⟨a, b, ha, hb, kept⟩
      memory := h.memory.newContext true room ctx }

theorem release (h : Rig.Agrees buffers pairs f r g s) {ctx ctx' : ContextRef}
    (hctx : pairs.Refs ctx ctx') :
    Rig.Agrees buffers (pairs.release ctx) f (r.release f.file ctx) g (s.release g.file ctx') := by
  obtain ⟨a, b, ha, hb, hab⟩ := h.armed
  cases hctx with
  | none => exact h
  | @some i j hij =>
    have same := Pairing.mem_iff hab.tracked hij
    by_cases hi : i ∈ a.tracked
    · rw [Rig.release_of_tracked h.filled_left ha hi,
        Rig.release_of_tracked h.filled_right hb (same.mp hi)]
      have perm := i.takeOff_perm a.tracked
      have left : ∀ id ∈ i.takeOff a.tracked, id ≠ i ∧ id ∈ a.tracked := fun id member =>
        hab.nodup.mem_erase_iff.mp (perm.mem_iff.mp member)
      have taken : Armed.Agrees (pairs.release (some i))
          { a with tracked := i.takeOff a.tracked } { b with tracked := j.takeOff b.tracked } := by
        refine ⟨?_, perm.nodup_iff.mpr (hab.nodup.erase i), ?_, hab.requests, hab.policy⟩
        · exact (List.forall₂_and_left _ _).mpr
            ⟨fun id member => (left id member).1, Pairing.takeOff hab.tracked hij⟩
        · exact fun x y lent member => hab.apart x y lent (left x member).2
      have freed := h.memory.free hij fun y lent => hab.apart i y lent hi
      exact
        { h with
          armed := ⟨_, _, rfl, rfl, taken⟩
          memory := ⟨freed.contexts, freed.buffers, freed.live⟩ }
    · rw [Rig.release_of_stray h.filled_left ha hi,
        Rig.release_of_stray h.filled_right hb (mt same.mpr hi)]
      have kept : Armed.Agrees (pairs.release (some i)) a b := by
        refine ⟨?_, hab.nodup, hab.apart, hab.requests, hab.policy⟩
        exact (List.forall₂_and_left _ _).mpr
          ⟨fun id member same => hi (same ▸ member), hab.tracked⟩
      exact
        { h with
          armed := ⟨a, b, ha, hb, kept⟩
          memory := ⟨h.memory.contexts, h.memory.buffers,
            fun x y there => h.memory.live x y (there.imp_right fun held => held.2)⟩ }

theorem trackedIndex (h : Rig.Agrees buffers pairs f r g s) {a b : Armed} (hab : a.Agrees pairs b)
    {ctx ctx' : ContextRef} (hctx : pairs.Refs ctx ctx') :
    r.trackedIndex a ctx = s.trackedIndex b ctx' := by
  cases hctx with
  | none => rfl
  | @some i j hij =>
    have same := Pairing.mem_iff hab.tracked hij
    by_cases hi : i ∈ a.tracked
    · simp [Rig.trackedIndex, hi, same.mp hi, h.memory.contexts i j hij]
    · simp [Rig.trackedIndex, hi, mt same.mpr hi]

theorem request (h : Rig.Agrees buffers pairs f r g s) {ctx ctx' : ContextRef}
    (hctx : pairs.Refs ctx ctx') (data : Option Bytes) (length : Nat)
    (reportType requestKind : Int32) :
    (r.request f.file ctx data length reportType requestKind).1 =
        (s.request g.file ctx' data length reportType requestKind).1 ∧
      Rig.Agrees buffers pairs f (r.request f.file ctx data length reportType requestKind).2 g
        (s.request g.file ctx' data length reportType requestKind).2 := by
  obtain ⟨a, b, ha, hb, hab⟩ := h.armed
  rw [Rig.request_of_armed ctx data length reportType requestKind h.filled_left ha,
    Rig.request_of_armed ctx' data length reportType requestKind h.filled_right hb, hab.policy,
    hab.requests, h.trackedIndex hab hctx]
  exact ⟨rfl, h.setArmed ⟨hab.tracked, hab.nodup, hab.apart, rfl, rfl⟩⟩

/-- A step that is alike on both sides is answered alike, and the rigs agree after it. -/
theorem serve (h : Rig.Agrees buffers pairs f r g s) {a b : Service} (steps : a.Alike buffers pairs b)
    (admits : pairs.Admits span ((Act.served r f a).makes?.toList ++ xs)
      ((Act.served s g b).makes?.toList ++ ys)) :
    ∃ next, Service.Leads buffers span pairs a b (r.serve f a).1 (s.serve g b).1 next ∧
      Rig.Agrees buffers next (r.serve f a).2.1 (r.serve f a).2.2 (s.serve g b).2.1
        (s.serve g b).2.2 ∧ next.Admits span xs ys := by
  cases steps with
  | getData offset size => exact ⟨pairs, ⟨h.getData offset size, rfl⟩, h, admits⟩
  | read windows size => exact ⟨pairs, ⟨h.readWindow windows size, rfl⟩, h, admits⟩
  | write windows bytes => exact ⟨pairs, rfl, h.writeWindow windows bytes, admits⟩
  | allocate hid =>
    obtain ⟨_, _, ha, hb, -⟩ := h.armed
    have left := Rig.allocate_of_armed h.filled_left ha hid
    have right := Rig.allocate_of_armed h.filled_right hb hid
    simp only [Act.makes?, Act.handsOut?, left, right] at admits
    have room := h.memory.room admits
    obtain ⟨first, second, agrees⟩ := h.allocate room hid
    exact ⟨_, ⟨_, _, first, second, Pairing.makes_make, .inr ⟨rfl, rfl, rfl⟩⟩, agrees, admits.make⟩
  | release refs => exact ⟨_, rfl, h.release refs, admits.release _⟩
  | request refs data length reportType requestKind =>
    obtain ⟨same, agrees⟩ := h.request refs data length reportType requestKind
    exact ⟨pairs, ⟨same, rfl⟩, agrees, admits⟩
  | ownContext ctx =>
    have room := h.memory.room admits
    exact ⟨_, ⟨Pairing.makes_make, .inr ⟨rfl, rfl, rfl⟩⟩, h.ownContext room ctx, admits.make⟩
  | given => exact ⟨pairs, ⟨h.given_of_lent fun _ _ => pairs.known_of_lent, rfl⟩, h, admits⟩
  | readContext hij => exact ⟨pairs, ⟨h.memory.contexts _ _ hij, rfl⟩, h, admits⟩
  | writeContext hij ctx =>
    refine ⟨pairs, rfl, ?_, admits⟩
    simp only [Rig.serve, h.memory.contexts _ _ hij]
    exact { h with memory := h.memory.setContext hij (by simp [h.memory.contexts _ _ hij]) }
  | readArgs => exact ⟨pairs, ⟨h.args, rfl⟩, h, admits⟩
  | writeArgs args =>
    have edited : (f.args.map fun _ => args) = g.args.map fun _ => args := by rw [h.args]
    exact ⟨pairs, rfl, { h with args := edited }, admits⟩
  | print text => exact ⟨pairs, rfl, h.setLog _ _ _ _, admits⟩

end Rig.Agrees

/-! ## A program -/

/-- Programs alike end alike on rigs that agree. -/
theorem Native.Alike.run {buffers : Renaming BufferId} {span : Recall} {pairs : Pairing}
    {α β : Type} {rel : Pairing → α → β → Prop} {p : Native α} {q : Native β}
    (alike : p.Alike buffers span rel pairs q) {f g : Frame} {r s : Rig}
    (h : Rig.Agrees buffers pairs f r g s)
    (admits : pairs.Admits span (contextsMade (p.acts f r)) (contextsMade (q.acts g s))) :
    ∃ last, rel last (p.run f r).1 (q.run g s).1 ∧
      Rig.Agrees buffers last (p.run f r).2.1 (p.run f r).2.2 (q.run g s).2.1 (q.run g s).2.2 := by
  induction alike generalizing f g r s with
  | done values => exact ⟨_, values, h⟩
  | call steps _ ih =>
    rw [Native.acts, Native.acts, contextsMade_cons, contextsMade_cons] at admits
    obtain ⟨next, leads, after, admits⟩ := h.serve steps admits
    exact ih _ _ next leads after admits

end HidRig
