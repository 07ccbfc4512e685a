import HidRig.Proofs.Session.Chronicle

/-! # Contexts that are lent

The context of a hook is not on the list of its invocation, so that native code cannot give it back.

* `Rig.Lends`: a context that no record lists.
* `Rig.Lends.serve`, `Rig.Lends.start`, `Rig.Lends.finish`: services and calls keep it.
* `Call.lends_given`: the context of a call is one.
* `Chronicle.lends`: it outlasts whatever native code does.
-/

namespace HidRig

/-- A context is in memory, and is not on the list of the invocation that runs. -/
structure Rig.Lends (rig : Rig) (id : ContextId) : Prop where
  live : (rig.contexts id).isSome
  untracked : ∀ armed, rig.armed = some armed → id ∉ armed.tracked

namespace Rig.Lends
variable {r s : Rig} {id : ContextId}

theorem aside (h : r.Lends id) (ha : r.Aside s) : s.Lends id where
  live := by
    rw [ha.contexts]
    exact h.live
  untracked armed running := by
    rw [ha.armed] at running
    exact h.untracked armed running

/-- Another record that does not list the context. -/
theorem setArmed (h : r.Lends id) {armed? : Option Armed}
    (untracked : ∀ armed, armed? = some armed → id ∉ armed.tracked) :
    Lends { r with armed := armed? } id :=
  ⟨h.live, untracked⟩

theorem setContext (h : r.Lends id) {other : ContextId} {ctx? : Option HookContext}
    (own : other = id → ctx?.isSome) : (r.setContext other ctx?).Lends id where
  live := by
    by_cases same : id = other
    · simpa [Rig.setContext, same] using own same.symm
    · simpa [Rig.setContext, same] using h.live
  untracked := h.untracked

theorem newContext (h : r.Lends id) (ctx : HookContext) : (r.newContext ctx).2.Lends id where
  live := by
    rw [r.newContext_of_live ctx h.live]
    exact h.live
  untracked := h.untracked

/-! ### Services -/

theorem allocate (h : r.Lends id) (file : FileId) (hid : UInt32) :
    (r.allocate file hid).2.Lends id := by
  unfold Rig.allocate
  split
  · cases running : r.armed with
    | none => exact h.aside (.report r _)
    | some armed =>
      have made := h.newContext (.allocated hid)
      have other : id ≠ r.nextContext := r.ne_nextContext h.live
      refine made.setArmed fun next same => ?_
      cases same
      have fresh := h.untracked armed running
      simpa [Rig.newContext, other] using fresh
  · exact h

theorem release (h : r.Lends id) (file : FileId) : ∀ ctx, (r.release file ctx).Lends id
  | none => h
  | some other => by
    unfold Rig.release
    dsimp only
    split
    · cases running : r.armed with
      | none => exact h.aside (.report r _)
      | some armed =>
        have fresh := h.untracked armed running
        dsimp only
        split
        · rename_i listed
          -- what is taken off the list was on it, and the context that is lent was not
          have fewer : ∀ next, some { armed with tracked := other.takeOff armed.tracked } =
              some next → id ∉ next.tracked := by
            intro next same member
            cases same
            have left := (other.takeOff_perm armed.tracked).mem_iff.mp member
            exact fresh (List.mem_of_mem_erase left)
          refine (h.setArmed fewer).setContext fun same => ?_
          exact absurd (same ▸ listed) fresh
        · exact h.aside (.report r _)
    · exact h

theorem request (h : r.Lends id) (file : FileId) (ctx : ContextRef) (data : Option Bytes)
    (length : Nat) (reportType requestKind : Int32) :
    (r.request file ctx data length reportType requestKind).2.Lends id := by
  unfold Rig.request
  split
  · cases running : r.armed with
    | none => exact h.aside (.report r _)
    | some armed =>
      have fresh := h.untracked armed running
      refine h.setArmed fun next same => ?_
      cases same
      exact fresh
  · exact h

/-- A step of native code keeps a context that is lent. -/
theorem serve (h : r.Lends id) (frame : Frame) (service : Service) :
    (r.serve frame service).2.2.Lends id := by
  cases service with
  | allocate hid => exact h.allocate frame.file hid
  | release ctx => exact h.release frame.file ctx
  | request ctx data length reportType requestKind =>
    exact h.request frame.file ctx data length reportType requestKind
  | ownContext ctx => exact h.newContext ctx
  | writeContext other ctx =>
    refine h.setContext fun same => ?_
    subst same
    simpa using h.live
  | write window bytes => exact ⟨h.live, h.untracked⟩
  | print text => exact ⟨h.live, h.untracked⟩
  | _ => exact h

/-! ### Calls -/

theorem start (h : r.Lends id) (module : TestModule) (call : Call) :
    (call.start module r).2.Lends id := by
  have armed (rig : Rig) (file : FileId) (buffer : Option (BufferId × Nat))
      (policy : RequestPolicy) (lent : rig.Lends id) : (rig.arm file buffer policy).Lends id := by
    refine ⟨?_, fun next same => ?_⟩
    · rw [Rig.arm_contexts]
      exact lent.live
    · rw [Rig.arm_armed] at same
      cases same
      exact List.not_mem_nil
  cases call with
  | probe args => exact armed r module.file none {} h
  | hook role payload entry options =>
    have made := h.newContext (options.startContext payload)
    cases payload with
    | none => exact armed _ module.file none options.policy made
    | some payload =>
      have buffered : ((r.newContext (options.startContext (some payload))).2.newBuffer
          payload.buffer).2.Lends id := ⟨made.live, made.untracked⟩
      exact armed _ module.file _ options.policy buffered

theorem disarm (h : r.Lends id) (file : FileId) : (r.disarm file).2.Lends id := by
  cases running : r.armed with
  | none =>
    rw [Rig.disarm_of_idle running]
    exact ⟨h.live, h.untracked⟩
  | some armed =>
    rw [Rig.disarm_of_armed running]
    have fresh := h.untracked armed running
    exact ⟨by simpa [Rig.reportAll, Rig.freeContexts, Rig.setTable, fresh] using h.live, nofun⟩

/-- The end of a call that began in `r`, where the context was lent already. -/
theorem finish (h : s.Lends id) (before : r.Lends id) (module : TestModule) (call : Call)
    (code : Int32) (frame : Frame) : (call.finish module r code frame s).Lends id := by
  have other : (call.start module r).1.given ≠ some id := fun given =>
    r.ne_nextContext before.live (call.start_given module r given).1
  refine ⟨?_, fun armed running => ?_⟩
  · rw [Call.finish_contexts, if_neg other]
    exact (h.disarm module.file).live
  · rw [Call.finish_armed] at running
    cases running

end Rig.Lends

/-- The context of a call is lent to its native code. -/
theorem Call.lends_given (module : TestModule) (rig : Rig) (call : Call) {id : ContextId}
    (given : (call.start module rig).1.given = some id) : (call.start module rig).2.Lends id where
  live := (call.start_given module rig given).2
  untracked armed running := by
    rw [Call.start_armed] at running
    cases running
    exact List.not_mem_nil

/-- Nothing that native code does takes away a context that is lent. -/
theorem Chronicle.lends {file : FileId} {r t : Rig} {acts : List Act} {id : ContextId}
    (h : Chronicle file r acts t) (lent : r.Lends id) : t.Lends id := by
  induction h with
  | done aside => exact lent.aside aside
  | served aside frame service _ _ ih => exact ih ((lent.aside aside).serve frame service)
  | installed aside place table installs _ ih =>
    have before := lent.aside aside
    refine ih ⟨?_, fun armed running => ?_⟩
    · rw [installs.contexts]
      exact before.live
    · rw [installs.armed] at running
      exact before.untracked armed running
  | called aside module call code frame _ _ ihBody ih =>
    have before := lent.aside aside
    have ends := ihBody (before.start module call)
    exact ih (ends.finish before module call code frame)
  | ran aside _ _ ihBody ih => exact ih (ihBody (lent.aside aside))
  | threaded aside _ _ ihBody ih =>
    have before := lent.aside aside
    have ends := ihBody (before.setArmed nofun)
    exact ih (ends.setArmed before.untracked)

end HidRig
