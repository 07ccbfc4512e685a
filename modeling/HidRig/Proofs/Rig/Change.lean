import HidRig.Proofs.Rig.Bridge

/-! # What a step of native code can do

Native code reaches the rig through its services alone. All that they do is a sequence of a few
changes, so that what every change keeps is kept by every step.

* `Rig.Change`: the changes.
* `Rig.change_serve`: a step is made of them.
* `Rig.Change.tables`, `Rig.Change.idle`, …: what they keep.
-/

namespace HidRig.Rig

/-- A sequence of changes that a step of native code can make. -/
inductive Change : Rig → Rig → Prop
  | refl (r : Rig) : Change r r
  | trans {r s t : Rig} (first : Change r s) (second : Change s t) : Change r t
  | told (r : Rig) (log : List Event) (output : String) : Change r { r with log, output }
  | recorded {r : Rig} (running : r.armed.isSome) (armed : Armed) :
      Change r { r with armed := some armed }
  | made (r : Rig) (ctx : HookContext) : Change r (r.newContext ctx).2
  | placed {r : Rig} {id : ContextId} {ctx? : Option HookContext}
      (old : r.contexts id = none → ctx? = none) : Change r (r.setContext id ctx?)
  | written {r : Rig} {id : BufferId} {bytes? : Option Bytes}
      (old : r.buffers id = none → bytes? = none) : Change r (r.setBuffer id bytes?)

section Serve
variable (rig : Rig) (file : FileId)

theorem change_report (event : Event) : rig.Change (rig.report event) :=
  .told rig (rig.log ++ [event]) rig.output

theorem change_allocate (hid : UInt32) : rig.Change (rig.allocate file hid).2 := by
  unfold allocate
  split
  · cases ha : rig.armed with
    | none => exact rig.change_report _
    | some armed =>
      have running : (rig.newContext (.allocated hid)).2.armed.isSome := by
        rw [show (rig.newContext (.allocated hid)).2.armed = rig.armed from rfl, ha]
        rfl
      exact .trans (.made rig (.allocated hid)) (.recorded running _)
  · exact .refl rig

theorem change_release : ∀ ctx, rig.Change (rig.release file ctx)
  | none => .refl rig
  | some id => by
    unfold release
    dsimp only
    split
    · cases ha : rig.armed with
      | none => exact rig.change_report _
      | some armed =>
        dsimp only
        split
        · have running : rig.armed.isSome := by rw [ha]; rfl
          exact .trans (.recorded running _) (.placed fun _ => rfl)
        · exact rig.change_report _
    · exact .refl rig

theorem change_request (ctx : ContextRef) (data : Option Bytes) (length : Nat)
    (reportType requestKind : Int32) :
    rig.Change (rig.request file ctx data length reportType requestKind).2 := by
  unfold request
  split
  · cases ha : rig.armed with
    | none => exact rig.change_report _
    | some armed =>
      have running : rig.armed.isSome := by rw [ha]; rfl
      exact .recorded running _
  · exact .refl rig

/-- A step of native code changes nothing in any other way. -/
theorem change_serve (frame : Frame) (service : Service) :
    rig.Change (rig.serve frame service).2.2 := by
  cases service with
  | allocate hid => exact rig.change_allocate frame.file hid
  | release ctx => exact rig.change_release frame.file ctx
  | request ctx data length reportType requestKind =>
    exact rig.change_request frame.file ctx data length reportType requestKind
  | ownContext ctx => exact .made rig ctx
  | write window bytes =>
    refine .written fun hnone => ?_
    rw [hnone]
    rfl
  | writeContext id ctx =>
    refine .placed fun hnone => ?_
    rw [hnone]
    rfl
  | print text => exact .told rig rig.log (rig.output ++ text)
  | getData offset size => exact .refl rig
  | read window size => exact .refl rig
  | given => exact .refl rig
  | readContext id => exact .refl rig
  | readArgs => exact .refl rig
  | writeArgs args => exact .refl rig

end Serve

/-! ## What changes keep -/

namespace Change
variable {r s : Rig}

theorem tables (h : r.Change s) : s.tables = r.tables := by
  induction h with
  | trans _ _ ihFirst ihSecond => rw [ihSecond, ihFirst]
  | _ => rfl

/-- No record is started. -/
theorem idle (h : r.Change s) : r.armed = none → s.armed = none := by
  induction h with
  | trans _ _ ihFirst ihSecond => exact fun hr => ihSecond (ihFirst hr)
  | recorded running => exact fun hr => absurd running (by simp [hr])
  | _ => exact id

end Change

section
variable (rig : Rig) (frame : Frame) (service : Service)

@[simp] theorem serve_tables : (rig.serve frame service).2.2.tables = rig.tables :=
  (rig.change_serve frame service).tables

end

theorem serve_idle {rig : Rig} (h : rig.armed = none) (frame : Frame) (service : Service) :
    (rig.serve frame service).2.2.armed = none :=
  (rig.change_serve frame service).idle h

end HidRig.Rig
