import HidRig.Fixture.DescriptorPatch
import HidRig.Proofs.Fixture.Opened
import HidRig.Proofs.Probes.Arguments
import HidRig.Proofs.Session.Ensured

/-! # Descriptors put right

Two hooks put one byte of a descriptor right, and change nothing in a descriptor that is right.

* `TestModule.Patches`: a module changes one byte of a descriptor, and nothing when called again.
* `TestModule.patches_of_ensures`: so it is if its hook changes one byte of the buffer, once.
* `TestModule.descriptors_patched`: what two modules make of every descriptor, and which of them a
  probe accepts.
-/

namespace HidRig

/-! ## Padding -/

namespace Bytes

/-- Zeros after the bytes, as far as they fit, make no difference. -/
theorem resize_zeros {bytes : Bytes} {n room : Nat} (fits : bytes.length + room ≤ n) :
    resize (bytes ++ List.replicate room 0) n 0 = bytes.resize n 0 := by
  have rest : n - bytes.length = room + (n - (bytes.length + room)) := by omega
  rw [resize_of_le (by simpa using fits), resize_of_le (by omega), List.length_append,
    List.length_replicate, rest, List.replicate_add, List.append_assoc]

theorem resize_of_length {bytes : Bytes} {n : Nat} (length : bytes.length = n) (fill : UInt8) :
    bytes.resize n fill = bytes := by
  rw [resize_of_le (Nat.le_of_eq length), length, Nat.sub_self, List.replicate_zero,
    List.append_nil]

theorem getD_resize {bytes : Bytes} {n : Nat} (fits : bytes.length ≤ n) (i : Nat) :
    (bytes.resize n 0).getD i 0 = bytes.getD i 0 := by
  rw [resize_of_le fits]
  by_cases inside : i < bytes.length
  · rw [List.getD_append _ _ _ _ inside]
  · rw [List.getD_append_right _ _ _ _ (Nat.le_of_not_lt inside),
      List.getD_eq_default _ _ (Nat.le_of_not_lt inside)]
    rw [List.getD_eq_getElem?_getD, List.getElem?_replicate]
    split <;> rfl

theorem overwrite_eq_modify {bytes : Bytes} {i : Nat} (inside : i < bytes.length)
    {change : UInt8 → UInt8} {b : UInt8} (changed : change (bytes.getD i 0) = b) :
    bytes.overwrite i [b] = bytes.modify i change := by
  rw [overwrite_one inside, ← changed, List.getD_eq_getElem _ _ inside,
    List.modify_eq_set_get _ inside]
  rfl

theorem modify_of_fixed {bytes : Bytes} {i : Nat} (inside : i < bytes.length)
    {change : UInt8 → UInt8} (fixed : change (bytes.getD i 0) = bytes.getD i 0) :
    bytes.modify i change = bytes := by
  rw [List.getD_eq_getElem _ _ inside] at fixed
  rw [List.modify_eq_set_get _ inside]
  show bytes.set i (change bytes[i]) = bytes
  rw [fixed, List.set_getElem_self]

end Bytes

/-! ## One byte -/

/-- A hook makes of a descriptor its buffer with one byte changed, and nothing of that. Zeros after
the descriptor make no difference. -/
structure TestModule.Patches (module : TestModule) (offset : Nat) (change : UInt8 → UInt8)
    (rdesc fixed : Bytes) : Prop where
  length : fixed.length = 4096
  byte : fixed.getD offset 0 = change (rdesc.getD offset 0)
  others : ∀ i, i ≠ offset → fixed[i]? = (rdesc.resize 4096 0)[i]?
  fixes : module.Fixes .reportDescriptorFixup rdesc fixed
  again : module.Fixes .reportDescriptorFixup fixed fixed
  zeros : ∀ room, rdesc.length + room ≤ 4096 →
    module.Fixes .reportDescriptorFixup (rdesc ++ List.replicate room 0) fixed

theorem TestModule.patches_of_ensures {module : TestModule} {symbol : String} {body : Native Int32}
    (offset : Nat) (change : UInt8 → UInt8)
    (resolved : module.hooks .reportDescriptorFixup = .resolved symbol (.code body))
    (inside : offset < 4096) (once : ∀ b, change (change b) = change b)
    (ensures : ∀ place : Workplace, place.data.length = 4096 →
      body.Ensures place fun code last => code = 0 ∧ last.data = place.data.modify offset change)
    {rdesc : Bytes} (fits : rdesc.length ≤ 4096) :
    module.Patches offset change rdesc ((rdesc.resize 4096 0).modify offset change) := by
  have fixes {bytes : Bytes} (fits : bytes.length ≤ 4096) :
      module.Fixes .reportDescriptorFixup bytes ((bytes.resize 4096 0).modify offset change) := by
    refine fixes_of_ensures resolved fits (by omega) fun place start => ?_
    have full : place.data = bytes.resize 4096 0 := start.trans (Bytes.resize_of_le fits 0).symm
    have fixed := ensures place (by rw [full, Bytes.length_resize])
    rwa [full] at fixed
  have length : ((rdesc.resize 4096 0).modify offset change).length = 4096 := by
    rw [List.length_modify, Bytes.length_resize]
  refine ⟨length, ?_, fun i other => ?_, fixes fits, ?_, fun room fits => ?_⟩
  · have there : offset < (rdesc.resize 4096 0).length := by simpa using inside
    rw [← Bytes.getD_resize fits, List.getD_eq_getElem?_getD, List.getElem?_modify_eq,
      List.getD_eq_getElem _ _ there, List.getElem?_eq_getElem there]
    rfl
  · rw [List.getElem?_modify_ne _ _ other.symm]
  · -- a buffer is full, so that nothing is added to it when it is given again
    have again := fixes (Nat.le_of_eq length)
    have same : change ∘ change = change := funext once
    rwa [Bytes.resize_of_length length, List.modify_modify_eq, same] at again
  · have longer : (rdesc ++ List.replicate room 0).length ≤ 4096 := by simpa using fits
    have fixed := fixes longer
    rwa [Bytes.resize_zeros fits] at fixed

/-! ## The two hooks -/

namespace Fixture

/-- In a buffer for a descriptor there is room for what a fixup asks for. -/
theorem descriptorRoom_le {place : Workplace} (full : place.data.length = 4096) :
    descriptorRoom.toNat ≤ place.data.length := by
  rw [full]
  decide

namespace M50Silent
variable {module : TestModule}

theorem hook_of_opened (opened : module.OpenedOn fixture) :
    module.hooks .reportDescriptorFixup = .resolved symbol (.code hook) :=
  opened.hook (by decide +kernel) (by decide) (by decide)

/-- The byte that the hook makes of another. -/
def corrected (button : UInt8) : UInt8 :=
  if button = 3 then 5 else button

theorem corrected_corrected (button : UInt8) : corrected (corrected button) = corrected button := by
  unfold corrected
  split <;> rfl

theorem hook_ensures {place : Workplace} (full : place.data.length = 4096) :
    hook.Ensures place fun code last =>
      code = 0 ∧ last.data = place.data.modify 17 corrected := by
  have inside : 17 < place.data.length := by omega
  refine .withData_of_le (descriptorRoom_le full) (.bind (.read rfl 17 1 ?_))
  rw [Bytes.window_one inside]
  by_cases declared : place.data.getD 17 0 = declaredButton
  · rw [if_pos (by rw [declared])]
    have changed : corrected (place.data.getD 17 0) = 5 := if_pos declared
    exact .bind (.write rfl 17 _ (.done ⟨rfl, Bytes.overwrite_eq_modify inside changed⟩))
  · rw [if_neg (by simpa using declared)]
    have kept : corrected (place.data.getD 17 0) = place.data.getD 17 0 := if_neg declared
    exact .done ⟨rfl, (Bytes.modify_of_fixed inside kept).symm⟩

end M50Silent

namespace RaptorMach2
variable {module : TestModule}

theorem hook_of_opened (opened : module.OpenedOn fixture) :
    module.hooks .reportDescriptorFixup = .resolved symbol (.code hook) :=
  opened.hook (by decide +kernel) (by decide) (by decide)

theorem hook_ensures {place : Workplace} (full : place.data.length = 4096) :
    hook.Ensures place fun code last =>
      code = 0 ∧ last.data = place.data.modify 177 fun _ => 7 := by
  have inside : 177 < place.data.length := by omega
  exact .withData_of_le (descriptorRoom_le full)
    (.bind (.write rfl 177 _ (.done ⟨rfl, Bytes.overwrite_eq_modify inside rfl⟩)))

/-- The probe accepts the descriptors of one length with one byte as it is declared. -/
theorem judges_descriptor (opened : module.OpenedOn fixture) {rdesc : Bytes} {args : ProbeArgs}
    (made : ProbeArgs.ofDescriptor? rdesc = some args) :
    module.Judges args (if rdesc.length = 232 ∧ rdesc.getD 177 0 = 0xef then 0 else -22) := by
  obtain ⟨carries, fits⟩ := ProbeArgs.carries_of_ofDescriptor? made
  have size : args.rdescSize = descriptorSize ↔ rdesc.length = 232 := by
    rw [← UInt32.toNat_inj, carries.size]
    rfl
  have byte : args.byte buttonOffset = rdesc.getD 177 0 := by
    rw [ProbeArgs.byte, carries.buffer, ← Bytes.resize_of_le fits, Bytes.getD_resize fits]
    rfl
  have judges := TestModule.judges_of_verdict opened.probe_eq args
  simp only [Bool.and_eq_true, decide_eq_true_eq, size, byte] at judges
  exact judges

end RaptorMach2

end Fixture

/-- A descriptor that fits makes an argument for a probe. -/
theorem ProbeArgs.exists_ofDescriptor {rdesc : Bytes} (fits : rdesc.length ≤ 4096) :
    ∃ args, ofDescriptor? rdesc = some args :=
  Option.ne_none_iff_exists'.mp fun none =>
    absurd ((ofDescriptor?_eq_none_iff rdesc).mp none) (Nat.not_lt.mpr fits)

open Fixture in
/-- Of every descriptor that fits, the hook of the mouse makes the buffer with one byte corrected, if
it is the wrong one, and the hook of the flight stick the buffer with one byte set. The probe of the
stick accepts the descriptors of 232 bytes with the wrong byte, and not the start of a buffer that
was put right. -/
theorem TestModule.descriptors_patched (rdesc : Bytes) (fits : rdesc.length ≤ 4096) :
    (∀ mouse : TestModule, mouse.OpenedOn M50Silent.fixture →
      ∃ fixed, mouse.Patches 17 (fun button => if button = 3 then 5 else button) rdesc fixed) ∧
    ∀ stick : TestModule, stick.OpenedOn RaptorMach2.fixture →
      ∃ fixed args next, stick.Patches 177 (fun _ => 7) rdesc fixed ∧
        ProbeArgs.ofDescriptor? rdesc = some args ∧
        stick.Judges args (if rdesc.length = 232 ∧ rdesc.getD 177 0 = 0xef then 0 else -22) ∧
        ProbeArgs.ofDescriptor? (fixed.take 232) = some next ∧ stick.Judges next (-22) := by
  refine ⟨fun mouse opened => ?_, fun stick opened => ?_⟩
  · exact ⟨_, patches_of_ensures 17 M50Silent.corrected (M50Silent.hook_of_opened opened) (by decide)
      M50Silent.corrected_corrected (fun _ => M50Silent.hook_ensures) fits⟩
  · have patches := patches_of_ensures 177 (fun _ => 7) (RaptorMach2.hook_of_opened opened)
      (by decide) (fun _ => rfl) (fun _ => RaptorMach2.hook_ensures) fits
    generalize (rdesc.resize 4096 0).modify 177 _ = fixed at patches
    have short : (fixed.take 232).length ≤ 4096 :=
      Nat.le_trans (List.length_take_le _ _) (by decide)
    have right : (fixed.take 232).getD 177 0 = 7 := by
      rw [List.getD_eq_getElem?_getD, List.getElem?_take_of_lt (by decide),
        ← List.getD_eq_getElem?_getD, patches.byte]
    obtain ⟨args, made⟩ := ProbeArgs.exists_ofDescriptor fits
    obtain ⟨next, again⟩ := ProbeArgs.exists_ofDescriptor short
    have judges := RaptorMach2.judges_descriptor opened again
    rw [right, if_neg fun wrong => absurd wrong.2 (by decide)] at judges
    exact ⟨fixed, args, next, patches, made, RaptorMach2.judges_descriptor opened made,
      again, judges⟩

open Fixture in
/-- A descriptor with both bytes wrong. The stick accepts it, and not what it makes of it. -/
theorem TestModule.descriptors_patched_declared :
    let rdesc : Bytes :=
      List.replicate 17 1 ++ 3 :: (List.replicate 159 1 ++ 0xef :: List.replicate 54 2)
    rdesc.length ≤ 4096 ∧
    ∃ mouse stick : TestModule,
      mouse.OpenedOn M50Silent.fixture ∧ stick.OpenedOn RaptorMach2.fixture ∧
      (∃ fixed, mouse.Fixes .reportDescriptorFixup rdesc fixed ∧ fixed.getD 17 0 = 5 ∧
        mouse.Fixes .reportDescriptorFixup fixed fixed) ∧
      ∃ fixed args next, stick.Fixes .reportDescriptorFixup rdesc fixed ∧
        ProbeArgs.ofDescriptor? rdesc = some args ∧ stick.Judges args 0 ∧
        ProbeArgs.ofDescriptor? (fixed.take 232) = some next ∧ stick.Judges next (-22) := by
  intro rdesc
  have fits : rdesc.length ≤ 4096 := by decide +kernel
  obtain ⟨mouse, -, -, -, first⟩ := exists_opened "0010-Rapoo__M50-Plus-Silent" acceptAll
    [(M50Silent.symbol, M50Silent.hook)] _
  obtain ⟨stick, -, -, -, second⟩ := exists_opened "0010-FR-TEC__Raptor-Mach-2" RaptorMach2.probe
    [(RaptorMach2.symbol, RaptorMach2.hook)] _
  obtain ⟨mice, sticks⟩ := TestModule.descriptors_patched rdesc fits
  obtain ⟨fixed, patches⟩ := mice mouse first
  obtain ⟨other, args, next, patched, made, accepts, again, rejects⟩ := sticks stick second
  rw [if_pos (by decide +kernel)] at accepts
  exact ⟨fits, mouse, stick, first, second,
    ⟨fixed, patches.fixes, patches.byte.trans (by decide +kernel), patches.again⟩,
    other, args, next, patched.fixes, made, accepts, again, rejects⟩

end HidRig
