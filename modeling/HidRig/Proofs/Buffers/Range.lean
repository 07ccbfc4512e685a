import HidRig.Proofs.Buffers.Attached
import Mathlib.Algebra.Group.Nat.Defs

/-! # Ranges that are handed out

A module asks for a range of the attached buffer by an offset and a size. The end of the range is
compared with the length of the buffer as a 64-bit number, so that a size near the greatest one
makes an end past the buffer look like one inside.

* `ServiceTable.Fits`: the range ends inside the length of the table.
* `ServiceTable.grants_eq_some_iff`: what is decided.
* `ServiceTable.grants_iff_fits`: ranges that fit are what is handed out, unless the end wraps.
-/

namespace HidRig

namespace ServiceTable
variable (table : ServiceTable) (offset : UInt32) (size : UInt64)

/-- There is a buffer, and the range ends no later than its length. -/
def Fits : Prop :=
  table.data.isSome ∧ offset.toNat + size.toNat ≤ table.dataLen.toNat

instance : Decidable (table.Fits offset size) :=
  inferInstanceAs (Decidable (_ ∧ _))

theorem grants_eq_some_iff (id : BufferId) :
    table.grants offset size = some id ↔
      table.data = some id ∧ (offset.toNat + size.toNat) % 2 ^ 64 ≤ table.dataLen.toNat := by
  have last : (offset.toUInt64 + size).toNat = (offset.toNat + size.toNat) % 2 ^ 64 := by
    simp [UInt64.toNat_add]
  have fits : offset.toUInt64 + size ≤ table.dataLen ↔
      (offset.toNat + size.toNat) % 2 ^ 64 ≤ table.dataLen.toNat := by
    rw [UInt64.le_iff_toNat_le, last]
  unfold grants
  split
  · next h => simp only [fits.mp h, and_true]
  · next h => simp only [mt fits.mpr h, and_false, reduceCtorEq]

theorem grants_isSome_iff :
    (table.grants offset size).isSome ↔
      table.data.isSome ∧ (offset.toNat + size.toNat) % 2 ^ 64 ≤ table.dataLen.toNat := by
  simp only [Option.isSome_iff_exists, grants_eq_some_iff, exists_and_right]

variable {table offset size}

theorem Fits.lt (h : table.Fits offset size) : offset.toNat + size.toNat < 2 ^ 64 :=
  Nat.lt_of_le_of_lt h.2 table.dataLen.toNat_lt

theorem Fits.grants (h : table.Fits offset size) {id : BufferId} (hid : table.data = some id) :
    table.grants offset size = some id := by
  rw [grants_eq_some_iff, Nat.mod_eq_of_lt h.lt]
  exact ⟨hid, h.2⟩

/-- A range whose end does not wrap is handed out only if it fits. -/
theorem fits_of_grants {id : BufferId} (h : table.grants offset size = some id)
    (small : offset.toNat + size.toNat < 2 ^ 64) : table.data = some id ∧ table.Fits offset size := by
  rw [grants_eq_some_iff, Nat.mod_eq_of_lt small] at h
  refine ⟨h.1, ?_, h.2⟩
  rw [h.1]
  rfl

end ServiceTable

/-- A range is handed out if there is a buffer and the end of the range, as a 64-bit number, is not
past its length. These are the ranges that fit, but for those whose end wraps to one that is not past
the length. A range that fits is inside the buffer. -/
theorem ServiceTable.grants_iff_fits (table : ServiceTable) (offset : UInt32) (size : UInt64) :
    let last := offset.toNat + size.toNat
    let granted := (table.grants offset size).isSome
    (granted ↔ table.data.isSome ∧ last % 2 ^ 64 ≤ table.dataLen.toNat) ∧
    ((granted ↔ table.Fits offset size) ↔
      ¬(table.data.isSome ∧ 2 ^ 64 ≤ last ∧ last - 2 ^ 64 ≤ table.dataLen.toNat)) ∧
    ∀ (session : Session) (file : FileId), session.Reachable → session.rig.tables file = table →
      table.Fits offset size →
      ∃ buffer bytes, session.rig.getData file offset size = some ⟨buffer, offset.toNat⟩ ∧
        session.rig.buffers buffer = some bytes ∧ last ≤ bytes.length := by
  intro last granted
  have decided : granted ↔ table.data.isSome ∧ last % 2 ^ 64 ≤ table.dataLen.toNat :=
    table.grants_isSome_iff offset size
  refine ⟨decided, ?_, ?_⟩
  · have hoffset := offset.toNat_lt
    have hsize := size.toNat_lt
    have hlen := table.dataLen.toNat_lt
    rw [decided]
    by_cases attached : table.data.isSome
    · -- the end is below twice the greatest number, so that it wraps once at most
      simp only [Fits, attached, true_and]
      omega
    · simp [Fits, attached]
  · rintro session file reachable rfl fits
    obtain ⟨buffer, hbuffer⟩ := Option.isSome_iff_exists.mp fits.1
    obtain ⟨bytes, there, long⟩ := reachable.attached.held file buffer hbuffer
    refine ⟨buffer, bytes, ?_, there, Nat.le_trans fits.2 long⟩
    rw [Rig.getData, fits.grants hbuffer]
    rfl

/-! ## The range of a report -/

/-- The session in which the hook of a report of four bytes starts. -/
def Session.inReport : Session :=
  (Session.start Disk.empty [] fun _ => none).begun (.uniform ⟨1⟩ .scripted)
    (.hook .deviceEvent (some ⟨[1, 2, 3, 4], 4⟩) .scripted {})

/-- The last three bytes of the report fit. -/
theorem ServiceTable.grants_iff_fits_report :
    let session := Session.inReport
    session.Reachable ∧ (session.rig.tables ⟨1⟩).Fits 1 3 ∧
      ∃ buffer bytes, session.rig.getData ⟨1⟩ 1 3 = some ⟨buffer, 1⟩ ∧
        session.rig.buffers buffer = some bytes ∧ 4 ≤ bytes.length := by
  intro session
  have reachable : session.Reachable := (Session.Reachable.start _ _ _ _ _).begun _ _
  have fits : (session.rig.tables ⟨1⟩).Fits 1 3 := by decide
  obtain ⟨-, -, inside⟩ := (session.rig.tables ⟨1⟩).grants_iff_fits 1 3
  exact ⟨reachable, fits, inside session ⟨1⟩ reachable rfl fits⟩

/-- Behind the first byte of the report nearly all of memory is handed out. -/
theorem Session.range_past_report :
    let session := Session.inReport
    session.Reachable ∧ session.rig.buffers ⟨0⟩ = some [1, 2, 3, 4] ∧
      session.rig.getData ⟨1⟩ 1 0xffffffffffffffff = some ⟨⟨0⟩, 1⟩ ∧
      ¬ (session.rig.tables ⟨1⟩).Fits 1 0xffffffffffffffff := by
  intro session
  exact ⟨(Session.Reachable.start _ _ _ _ _).begun _ _, by rfl, by rfl, by decide⟩

end HidRig
