import HidRig.Proofs.Session.Outcome
import Mathlib.Data.List.GetD

/-! # Arguments of probes and descriptors of fixups

A probe is given a descriptor in its argument, and a descriptor fixup in its buffer. Both are
limited and padded alike.

* `ProbeArgs.Carries`: an argument that carries a descriptor and nothing else.
* `lastOf`: the last thing that some changes make.
* `ProbeArgs.Edit`, `ProbeArgs.edited`: changes of an argument, and an argument after several.
* `ProbeArgs.view_edited`: what is seen of an argument after changes is what the last of them made.
* `Session.window_of_start`: what the native code of a hook is handed out when it starts.
* `ProbeArgs.agree_with_fixup`: the two ways to give a descriptor, and arguments after any changes.
-/

namespace HidRig

/-! ## Bytes -/

namespace Bytes

theorem resize_of_le {bytes : Bytes} {n : Nat} (fits : bytes.length ≤ n) (fill : UInt8) :
    bytes.resize n fill = bytes ++ List.replicate (n - bytes.length) fill := by
  rw [resize, List.take_of_length_le fits]

/-- A byte after a write: one of the bytes written, or what it was. -/
theorem getD_overwrite (bytes new : Bytes) (start i : Nat) (inside : i < bytes.length) (d : UInt8) :
    (bytes.overwrite start new).getD i d =
      (if start ≤ i then new[i - start]? else none).getD (bytes.getD i d) := by
  simp only [overwrite, List.getD_eq_getElem?_getD, List.append_assoc]
  by_cases before : start ≤ i
  · have front : (bytes.take start).length = start := by
      rw [List.length_take]
      omega
    rw [if_pos before, List.getElem?_append_right (by rw [front]; exact before), front]
    by_cases written : i - start < new.length
    · have taken : i - start < (new.take (bytes.length - start)).length := by
        rw [List.length_take]
        omega
      rw [List.getElem?_append_left taken, List.getElem?_take_of_lt (by omega),
        List.getElem?_eq_getElem written]
      rfl
    · have none : new[i - start]? = none := List.getElem?_eq_none (Nat.le_of_not_lt written)
      have place : start + new.length + (i - start - new.length) = i := by omega
      rw [List.take_of_length_le (by omega), List.getElem?_append_right (by omega),
        List.getElem?_drop, place, none]
      rfl
  · rw [if_neg before, List.getElem?_append_left (by rw [List.length_take]; omega),
      List.getElem?_take_of_lt (by omega)]
    rfl

end Bytes

/-! ## What is made last -/

/-- The last thing that some changes make, or what there was before. -/
def lastOf {α β : Type} (made : α → Option β) (changes : List α) (before : β) : β :=
  (changes.filterMap made).getLast?.getD before

theorem lastOf_cons {α β : Type} (made : α → Option β) (change : α) (changes : List α)
    (before : β) :
    lastOf made (change :: changes) before = lastOf made changes ((made change).getD before) := by
  cases same : made change with
  | none => simp [lastOf, same]
  | some b => simp [lastOf, same, List.getLast?_cons]

namespace ProbeArgs

/-! ## Arguments for descriptors -/

theorem ofDescriptor?_eq_none_iff (rdesc : Bytes) :
    ofDescriptor? rdesc = none ↔ 4096 < rdesc.length := by
  unfold ofDescriptor?
  split
  · next fits =>
    have fits : rdesc.length ≤ 4096 := fits
    simp only [reduceCtorEq, false_iff]
    omega
  · next long =>
    have long : ¬ rdesc.length ≤ 4096 := long
    simp only [true_iff]
    omega

/-- An argument that carries a descriptor: all else is zero. -/
structure Carries (args : ProbeArgs) (rdesc : Bytes) : Prop where
  buffer : args.rdesc = rdesc ++ List.replicate (4096 - rdesc.length) 0
  size : args.rdescSize.toNat = rdesc.length
  hid : args.hid = 0
  retval : args.retval = 0

theorem carries_of_ofDescriptor? {rdesc : Bytes} {args : ProbeArgs}
    (made : ofDescriptor? rdesc = some args) : args.Carries rdesc ∧ rdesc.length ≤ 4096 := by
  unfold ofDescriptor? at made
  split at made
  · next fits =>
    cases made
    have fits : rdesc.length ≤ 4096 := fits
    have small : rdesc.length < 2 ^ 32 := by omega
    exact ⟨⟨Bytes.resize_of_le fits 0, UInt32.toNat_ofNat_of_lt' small, rfl, rfl⟩, fits⟩
  · cases made

theorem Carries.descriptor {args : ProbeArgs} {rdesc : Bytes} (h : args.Carries rdesc) :
    args.descriptor = rdesc := by
  rw [ProbeArgs.descriptor, h.buffer, h.size, List.take_left']
  rfl

/-! ## Changes -/

/-- A change of an argument. -/
inductive Edit where
  | rdescSize (n : UInt32)
  | hid (n : UInt32)
  | retval (n : Int32)
  /-- Bytes written into the buffer from some place on. -/
  | write (start : Nat) (bytes : Bytes)

def edit (args : ProbeArgs) : Edit → ProbeArgs
  | .rdescSize n => args.withRdescSize n
  | .hid n => args.withHid n
  | .retval n => args.withRetval n
  | .write start bytes => args.write start bytes

def edited (args : ProbeArgs) (edits : List Edit) : ProbeArgs :=
  edits.foldl edit args

namespace Edit

def rdescSize? : Edit → Option UInt32
  | rdescSize n => some n
  | _ => none

def hid? : Edit → Option UInt32
  | hid n => some n
  | _ => none

def retval? : Edit → Option Int32
  | retval n => some n
  | _ => none

/-- What a change writes at a place of the buffer. -/
def byte? (i : Nat) : Edit → Option UInt8
  | write start bytes => if start ≤ i then bytes[i - start]? else none
  | _ => none

end Edit

/-- What is seen of an argument after changes, if each change makes all of it or leaves it. -/
theorem view_edited {β : Type} (view : ProbeArgs → β) {made : Edit → Option β}
    (step : ∀ args change, view (edit args change) = (made change).getD (view args))
    (args : ProbeArgs) (edits : List Edit) :
    view (args.edited edits) = lastOf made edits (view args) := by
  induction edits generalizing args with
  | nil => rfl
  | cons change edits ih =>
    rw [lastOf_cons, ← step]
    exact ih (args.edit change)

theorem byte_edit {i : Nat} (inside : i < 4096) (args : ProbeArgs) (change : Edit) :
    (args.edit change).byte i = (change.byte? i).getD (args.byte i) := by
  cases change with
  | write start bytes =>
    exact Bytes.getD_overwrite args.rdesc bytes start i (by rw [args.length_rdesc]; exact inside) 0
  | _ => rfl

theorem descriptor_eq (args : ProbeArgs) :
    args.descriptor = args.rdesc.take (min args.rdescSize.toNat 4096) := by
  have whole : args.rdesc.take 4096 = args.rdesc :=
    List.take_of_length_le (Nat.le_of_eq args.length_rdesc)
  rw [← List.take_take, whole, descriptor]

/-- What changes make of an argument. -/
theorem edited_eq (before : ProbeArgs) (edits : List Edit) :
    let args := before.edited edits
    args.rdescSize = lastOf Edit.rdescSize? edits before.rdescSize ∧
      args.hid = lastOf Edit.hid? edits before.hid ∧
      args.retval = lastOf Edit.retval? edits before.retval ∧
      (∀ i < 4096, args.byte i = lastOf (Edit.byte? i) edits (before.byte i)) ∧
      args.descriptor = args.rdesc.take (min args.rdescSize.toNat 4096) := by
  refine ⟨view_edited rdescSize ?_ before edits, view_edited hid ?_ before edits,
    view_edited retval ?_ before edits,
    fun i inside => view_edited (byte · i) (byte_edit inside) before edits, descriptor_eq _⟩
  · intro args change; cases change <;> rfl
  · intro args change; cases change <;> rfl
  · intro args change; cases change <;> rfl

/-! ## Arguments that are the same -/

theorem eq_iff (x y : ProbeArgs) :
    x = y ↔ x.hid = y.hid ∧ x.rdescSize = y.rdescSize ∧ (∀ i < 4096, x.byte i = y.byte i) ∧
      x.retval = y.retval := by
  constructor
  · rintro rfl
    exact ⟨rfl, rfl, fun _ _ => rfl, rfl⟩
  · rintro ⟨hid, size, bytes, retval⟩
    have rdesc : x.rdesc = y.rdesc := by
      refine List.ext_getElem (x.length_rdesc.trans y.length_rdesc.symm) fun i left right => ?_
      have inside : i < 4096 := Nat.lt_of_lt_of_eq left x.length_rdesc
      simpa [byte, left, right] using bytes i inside
    cases x
    cases y
    cases hid
    cases size
    cases rdesc
    cases retval
    rfl

end ProbeArgs

/-! ## The start of a hook -/

/-- What the native code of a hook is handed out when it starts: each range inside its buffer. -/
theorem Session.window_of_start (session : Session) (module : TestModule) (role : Role)
    (payload : Payload) (entry : EntryPoint) (options : InvokeOptions)
    (small : payload.buffer.length < 2 ^ 64) (offset : UInt32) (size : UInt64)
    (inside : offset.toNat + size.toNat ≤ payload.buffer.length) :
    let rig := ((Call.hook role (some payload) entry options).start module session.rig).2
    ∃ window, rig.getData module.file offset size = some window ∧
      rig.readWindow window size.toNat = payload.buffer.window offset.toNat size.toNat := by
  intro rig
  have table : rig.tables module.file =
      .armed (some (⟨session.rig.bufferCount⟩, payload.buffer.length)) := by
    rw [Call.start_tables]
    exact if_pos rfl
  have length : (rig.tables module.file).dataLen.toNat = payload.buffer.length := by
    rw [table]
    exact UInt64.toNat_ofNat_of_lt' small
  have data : (rig.tables module.file).data = some ⟨session.rig.bufferCount⟩ := by rw [table]; rfl
  have fits : (rig.tables module.file).Fits offset size := ⟨by rw [data]; rfl, by rwa [length]⟩
  have content : rig.buffers ⟨session.rig.bufferCount⟩ = some payload.buffer := by
    rw [Call.start_buffers, if_pos rfl]
    rfl
  refine ⟨⟨⟨session.rig.bufferCount⟩, offset.toNat⟩, ?_, ?_⟩
  · rw [Rig.getData, fits.grants data]
    rfl
  · rw [Rig.readWindow, content]
    rfl

/-- A fixup complains of a payload just when the descriptor is too long. -/
theorem Session.fixup_tooLarge_iff (session : Session) {module : TestModule} {symbol : String}
    {entry : EntryPoint} (resolved : module.hooks .reportDescriptorFixup = .resolved symbol entry)
    (options : InvokeOptions) (script : Option Script) (rdesc : Bytes) :
    (∃ length limit, (session.hook module .reportDescriptorFixup (some rdesc) options
      (script.map Script.run)).1 = .error (.payloadTooLarge length limit)) ↔
      4096 < rdesc.length := by
  constructor
  · rintro ⟨length, limit, refused⟩
    by_contra short
    have admits : Role.reportDescriptorFixup.Admits (some rdesc) := Nat.le_of_not_lt short
    obtain ⟨_, _, _, -, ran⟩ := session.hookRan admits resolved options script
    exact ran.ne_tooLarge length limit refused
  · intro long
    have refused : module.prepare .reportDescriptorFixup (some rdesc) = _ :=
      TestModule.prepare_of_long long
    exact ⟨_, _, congrArg Prod.fst (session.hook_of_refused refused options _)⟩

/-- A fixup with the descriptor of an argument starts over the buffer of the argument. -/
theorem ProbeArgs.Carries.fixup {args : ProbeArgs} {rdesc : Bytes} (carries : args.Carries rdesc)
    (fits : rdesc.length ≤ 4096) {module : TestModule} {symbol : String} {entry : EntryPoint}
    (resolved : module.hooks .reportDescriptorFixup = .resolved symbol entry) (session : Session)
    (script : Option Script) :
    ∃ payload start last,
      payload.buffer = args.rdesc ∧ start.retvalOrSize.toInt = (args.rdescSize.toNat : Int) ∧
      session.HookRan module .reportDescriptorFixup (some rdesc) {} script
        (.hook .reportDescriptorFixup (some payload) entry {})
        (session.hook module .reportDescriptorFixup (some rdesc) {} (script.map Script.run)) start
        last := by
  have admits : Role.reportDescriptorFixup.Admits (some rdesc) := fits
  obtain ⟨payload, start, last, made, ran⟩ := session.hookRan admits resolved {} script
  have content : payload.map Payload.buffer =
      some (rdesc ++ List.replicate (4096 - rdesc.length) 0) := (Payload.content_of_forRole made).1
  obtain ⟨payload, rfl, buffer⟩ := Option.map_eq_some_iff.mp content
  refine ⟨payload, start, last, buffer.trans carries.buffer.symm, ?_, ran⟩
  have told : start.retvalOrSize.toInt = (min rdesc.length 2147483647 : Nat) :=
    (ran.default rfl).retvalOrSize
  rw [told, carries.size, Nat.min_eq_left (by omega)]

/-- A descriptor makes an argument for a probe just when a fixup takes it, which are the descriptors
of at most 4096 bytes. Then the buffer of the argument is what the fixup is handed out when it
starts, the descriptor followed by zeros, and the fixup is told the length that the argument
declares. After any changes an argument has in each place what the last change put there, and as its
descriptor the declared part of the buffer, or all of it. Two arguments are the same only if all of
their bytes are. -/
theorem ProbeArgs.agree_with_fixup (module : TestModule) {symbol : String} {entry : EntryPoint}
    (resolved : module.hooks .reportDescriptorFixup = .resolved symbol entry) (session : Session)
    (script : Option Script) (rdesc : Bytes) :
    let outcome :=
      session.hook module .reportDescriptorFixup (some rdesc) {} (script.map Script.run)
    (ofDescriptor? rdesc = none ↔ 4096 < rdesc.length) ∧
    ((∃ length limit, outcome.1 = .error (.payloadTooLarge length limit)) ↔
      4096 < rdesc.length) ∧
    (∀ args, ofDescriptor? rdesc = some args →
      args.rdesc = rdesc ++ List.replicate (4096 - rdesc.length) 0 ∧ args.descriptor = rdesc ∧
      ∃ payload start last,
        let call := Call.hook .reportDescriptorFixup (some payload) entry {}
        let rig := (call.start module session.rig).2
        session.HookRan module .reportDescriptorFixup (some rdesc) {} script call outcome start
          last ∧
        start.retvalOrSize.toInt = (args.rdescSize.toNat : Int) ∧
        ∀ offset size, offset.toNat + size.toNat ≤ 4096 →
          ∃ window, rig.getData module.file offset size = some window ∧
            rig.readWindow window size.toNat = args.rdesc.window offset.toNat size.toNat) ∧
    (∀ (before : ProbeArgs) (edits : List Edit),
      let args := before.edited edits
      args.rdescSize = lastOf Edit.rdescSize? edits before.rdescSize ∧
      args.hid = lastOf Edit.hid? edits before.hid ∧
      args.retval = lastOf Edit.retval? edits before.retval ∧
      (∀ i < 4096, args.byte i = lastOf (Edit.byte? i) edits (before.byte i)) ∧
      args.descriptor = args.rdesc.take (min args.rdescSize.toNat 4096)) ∧
    ∀ x y : ProbeArgs, x = y ↔ x.hid = y.hid ∧ x.rdescSize = y.rdescSize ∧
      (∀ i < 4096, x.byte i = y.byte i) ∧ x.retval = y.retval := by
  intro outcome
  refine ⟨ofDescriptor?_eq_none_iff rdesc, session.fixup_tooLarge_iff resolved {} script rdesc, ?_,
    edited_eq, eq_iff⟩
  · intro args made
    obtain ⟨carries, fits⟩ := carries_of_ofDescriptor? made
    obtain ⟨payload, start, last, buffer, told, ran⟩ :=
      carries.fixup fits resolved session script
    refine ⟨carries.buffer, carries.descriptor, payload, start, last, ran, told, ?_⟩
    intro offset size inside
    have length : payload.buffer.length = 4096 := by rw [buffer]; exact args.length_rdesc
    rw [← buffer]
    exact session.window_of_start module _ payload entry {} (by omega) offset size (by omega)

/-- A descriptor of the greatest length and one that is a byte longer, and an argument changed past
its declared part. -/
theorem ProbeArgs.agree_with_fixup_greatest :
    let module := TestModule.uniform ⟨0⟩ .scripted
    let session := Session.start Disk.empty [] fun _ => none
    let full : Bytes := List.replicate 4096 7
    let fixup (rdesc : Bytes) := session.hook module .reportDescriptorFixup (some rdesc) {} none
    module.hooks .reportDescriptorFixup = .resolved "entry" .scripted ∧
    (ofDescriptor? (7 :: full) = none ∧
      ∃ length limit, (fixup (7 :: full)).1 = .error (.payloadTooLarge length limit)) ∧
    ∃ args, ofDescriptor? full = some args ∧ args.rdesc = full ∧
      (args.edited [.rdescSize 3, .write 4095 [8, 9]]).byte 4095 = 8 ∧
      args.edited [.rdescSize 3, .write 4095 [8, 9]] ≠ args.edited [.rdescSize 3] := by
  intro module session full fixup
  have resolved : module.hooks .reportDescriptorFixup = .resolved "entry" .scripted := rfl
  have length : full.length = 4096 := List.length_replicate
  obtain ⟨refused, tooLarge, -⟩ := agree_with_fixup module resolved session none (7 :: full)
  obtain ⟨taken, -, carries, changed, same⟩ := agree_with_fixup module resolved session none full
  have long : 4096 < (7 :: full).length := by rw [List.length_cons, length]; omega
  have some : ofDescriptor? full ≠ none := fun none => by
    have := taken.mp none
    omega
  obtain ⟨args, made⟩ := Option.ne_none_iff_exists'.mp some
  obtain ⟨buffer, -⟩ := carries args made
  rw [length, Nat.sub_self, List.replicate_zero, List.append_nil] at buffer
  obtain ⟨-, -, -, bytes, -⟩ := changed args [.rdescSize 3, .write 4095 [8, 9]]
  have last : (args.edited [.rdescSize 3, .write 4095 [8, 9]]).byte 4095 = 8 :=
    (bytes 4095 (by omega)).trans (by rfl)
  refine ⟨resolved, ⟨refused.mpr long, tooLarge.mpr long⟩, args, made, buffer, last, ?_⟩
  intro alike
  have before : args.byte 4095 = 7 := by
    rw [byte, buffer]
    exact List.getD_replicate 7 (by omega)
  obtain ⟨-, -, all, -⟩ := (same _ _).mp alike
  have alike : _ = args.byte 4095 := all 4095 (by omega)
  rw [last, before] at alike
  cases alike

end HidRig
