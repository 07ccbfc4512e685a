import HidRig.Fixture.MouseInvertY
import HidRig.Proofs.Fixture.Opened
import HidRig.Proofs.Session.Ensured

/-! # The axis turned twice

The hook that negates an axis gives back the report when it is called on its own output.

* `MouseInvertY.axis`: the number in the place of the axis.
* `MouseInvertY.negate16_negate16`: negation in memory order is its own inverse.
* `MouseInvertY.inverted`, `MouseInvertY.hook_ensures`: what the hook makes of a report.
* `TestModule.axis_inverted`: what a module makes of every report, and of what it made.
-/

namespace HidRig

namespace Fixture.MouseInvertY
variable {module : TestModule}

theorem hook_of_opened (opened : module.OpenedOn fixture) :
    module.hooks .deviceEvent = .resolved symbol (.code hook) :=
  opened.hook (by decide +kernel) (by decide) (by decide)

/-! ## Numbers of two bytes -/

theorem eight_smod : (8 : Int32).toBitVec.smod 32 = 8 := rfl

theorem toNat_word16 (lo hi : UInt8) :
    (word16 [lo, hi]).toUInt16.toNat = lo.toNat + 256 * hi.toNat := by
  have low := lo.toNat_lt
  have high := hi.toNat_lt
  have apart : hi.toNat <<< 8 ||| lo.toNat = hi.toNat <<< 8 + lo.toNat :=
    (Nat.shiftLeft_add_eq_or_of_lt low hi.toNat).symm
  have shifted : hi.toNat <<< 8 = 256 * hi.toNat := by rw [Nat.shiftLeft_eq, Nat.mul_comm]
  have wide : hi.toNat <<< 8 < 2 ^ 32 := by omega
  have bits : (word16 [lo, hi]).toUInt16.toNat =
      (lo.toNat ||| (hi.toNat <<< 8) % 2 ^ 32) % 2 ^ 16 := by
    show (widen lo ||| widen hi <<< 8).toInt16.toBitVec.toNat = _
    rw [Int32.toBitVec_toInt16, BitVec.signExtend_eq_setWidth_of_le _ (by decide),
      BitVec.toNat_setWidth, Int32.toBitVec_or, Int32.toBitVec_shiftLeft, eight_smod,
      BitVec.toNat_or]
    simp [widen, UInt32.toBitVec_toInt32]
  rw [bits, Nat.mod_eq_of_lt wide, Nat.or_comm, apart]
  omega

theorem toNat_lowByte (n : Int32) : (lowByte n).toNat = (n.toBitVec.setWidth 8).toNat := by
  show ((n.toBitVec &&& 0xff#32).setWidth 8).toNat = _
  rw [BitVec.setWidth_and]
  exact congrArg BitVec.toNat BitVec.and_allOnes

/-- The two bytes of a number are the same in the wider one, also after an arithmetic shift. -/
theorem byte_signExtend (n : BitVec 16) {k : Nat} (within : k ≤ 8) :
    ((n.signExtend 32).sshiftRight k).setWidth 8 = n.extractLsb' k 8 := by
  ext i inside
  have low : k + i < 16 := by omega
  have wide : k + i < 32 := by omega
  have shown : ¬ 32 ≤ i := by omega
  simp [BitVec.getLsbD_sshiftRight, BitVec.getElem_signExtend, low, wide, shown]

theorem bytes16_toNat (n : Int16) :
    ∃ lo hi, bytes16 n = [lo, hi] ∧ lo.toNat + 256 * hi.toNat = n.toUInt16.toNat := by
  refine ⟨_, _, rfl, ?_⟩
  have bound := n.toUInt16.toNat_lt
  have low : (lowByte n.toInt32).toNat = n.toUInt16.toNat % 256 := by
    have bits := byte_signExtend n.toBitVec (Nat.zero_le 8)
    rw [BitVec.sshiftRight_zero] at bits
    rw [toNat_lowByte, Int16.toBitVec_toInt32, bits, BitVec.extractLsb'_toNat]
    rfl
  have high : (lowByte (n.toInt32 >>> 8)).toNat = n.toUInt16.toNat >>> 8 % 256 := by
    have shifted : (n.toInt32 >>> 8).toBitVec = (n.toBitVec.signExtend 32).sshiftRight 8 := by
      rw [Int32.toBitVec_shiftRight, eight_smod, Int16.toBitVec_toInt32]
      rfl
    rw [toNat_lowByte, shifted, byte_signExtend n.toBitVec (Nat.le_refl 8),
      BitVec.extractLsb'_toNat]
    rfl
  rw [low, high, Nat.shiftRight_eq_div_pow]
  omega

/-- Two bytes are told by the number that they hold. -/
theorem bytes_of_toNat {lo hi lo' hi' : UInt8}
    (same : lo.toNat + 256 * hi.toNat = lo'.toNat + 256 * hi'.toNat) : [lo, hi] = [lo', hi'] := by
  have := lo.toNat_lt
  have := lo'.toNat_lt
  have low : lo = lo' := UInt8.toNat_inj.mp (by omega)
  have high : hi = hi' := UInt8.toNat_inj.mp (by omega)
  rw [low, high]

theorem negate16_toNat (lo hi : UInt8) :
    ∃ lo' hi', negate16 [lo, hi] = [lo', hi'] ∧
      lo'.toNat + 256 * hi'.toNat = (2 ^ 16 - (lo.toNat + 256 * hi.toNat)) % 2 ^ 16 := by
  obtain ⟨lo', hi', bytes, value⟩ := bytes16_toNat (-word16 [lo, hi])
  refine ⟨lo', hi', ?_, ?_⟩
  · rw [negate16, Int32.toInt16_neg, Int16.toInt16_toInt32, bytes]
  · have negated : (-word16 [lo, hi]).toUInt16 = -(word16 [lo, hi]).toUInt16 := rfl
    rw [value, negated, UInt16.toNat_neg, toNat_word16]
    rfl

theorem negate16_negate16 (lo hi : UInt8) : negate16 (negate16 [lo, hi]) = [lo, hi] := by
  obtain ⟨lo', hi', once, value⟩ := negate16_toNat lo hi
  obtain ⟨lo'', hi'', twice, back⟩ := negate16_toNat lo' hi'
  have := lo.toNat_lt
  have := hi.toNat_lt
  rw [once, twice]
  exact bytes_of_toNat (by omega)

/-! ## Reports -/

/-- The number in the place of the axis. -/
def axis (report : Bytes) : Nat :=
  (report.getD 3 0).toNat + 256 * (report.getD 4 0).toNat

/-- What the hook makes of a report. -/
def inverted (report : Bytes) : Bytes :=
  if report.length < 9 then report
  else report.overwrite 3 (negate16 [report.getD 3 0, report.getD 4 0])

section Long
variable {report : Bytes} (enough : 9 ≤ report.length)
include enough

theorem overwrite_axis (lo hi : UInt8) :
    report.overwrite 3 [lo, hi] = (report.set 3 lo).set 4 hi :=
  Bytes.overwrite_two (Nat.lt_of_lt_of_le (by decide) enough) lo hi

theorem getD_set_axis (lo hi : UInt8) :
    ((report.set 3 lo).set 4 hi).getD 3 0 = lo ∧ ((report.set 3 lo).set 4 hi).getD 4 0 = hi := by
  have third : 3 < report.length := by omega
  have fourth : 4 < report.length := by omega
  constructor <;> simp [List.getD_eq_getElem?_getD, third, fourth]

/-- Two bytes and the number that the axis is turned to. -/
theorem inverted_of_long :
    ∃ lo hi, negate16 [report.getD 3 0, report.getD 4 0] = [lo, hi] ∧
      lo.toNat + 256 * hi.toNat = (2 ^ 16 - axis report) % 2 ^ 16 ∧
      inverted report = (report.set 3 lo).set 4 hi := by
  obtain ⟨lo, hi, bytes, value⟩ := negate16_toNat (report.getD 3 0) (report.getD 4 0)
  refine ⟨lo, hi, bytes, value, ?_⟩
  rw [inverted, if_neg (Nat.not_lt.mpr enough), bytes, overwrite_axis enough]

end Long

@[simp] theorem length_inverted (report : Bytes) : (inverted report).length = report.length := by
  unfold inverted
  split
  · rfl
  · exact Bytes.length_overwrite _ _ _

theorem inverted_inverted (report : Bytes) : inverted (inverted report) = report := by
  by_cases short : report.length < 9
  · have same : inverted report = report := if_pos short
    rw [same, same]
  · have enough := Nat.le_of_not_lt short
    have third : 3 < report.length := by omega
    have fourth : 4 < report.length := by omega
    obtain ⟨lo, hi, bytes, -, once⟩ := inverted_of_long enough
    have back := negate16_negate16 (report.getD 3 0) (report.getD 4 0)
    obtain ⟨low, high⟩ := getD_set_axis enough lo hi
    rw [once, inverted, if_neg (by simpa using short), low, high, ← bytes, back,
      overwrite_axis (by simpa using enough), List.getD_eq_getElem _ _ third,
      List.getD_eq_getElem _ _ fourth]
    -- the second call writes the old bytes where the first wrote
    rw [List.set_comm hi _ (by decide : 4 ≠ 3), List.set_set, List.set_set]
    simp

theorem hook_ensures (place : Workplace) :
    hook.Ensures place fun code last => code = 0 ∧ last.data = inverted place.data := by
  refine .withData (fun short => ⟨rfl, (if_pos short).symm⟩) fun enough => ?_
  have enough : 9 ≤ place.data.length := enough
  have axis : place.data.window 3 2 = [place.data.getD 3 0, place.data.getD 4 0] :=
    Bytes.window_two (by omega)
  refine .bind (.read rfl 3 2 (.bind (.write rfl 3 _ (.done ⟨rfl, ?_⟩))))
  rw [axis]
  exact (if_neg (Nat.not_lt.mpr enough)).symm

end Fixture.MouseInvertY

open Fixture.MouseInvertY in
/-- On every report, a module with this hook succeeds and keeps the length. A report of fewer than
nine bytes is left alone. In any other the number of the axis is negated, modulo 2^16, and all else
stays. Called on its own output, the module gives back the report. -/
theorem TestModule.axis_inverted (module : TestModule) (opened : module.OpenedOn fixture)
    (report : Bytes) (fits : report.length < 2 ^ 64) :
    ∃ fixed, module.Fixes .deviceEvent report fixed ∧ fixed.length = report.length ∧
      (report.length < 9 → fixed = report) ∧
      (9 ≤ report.length →
        axis fixed = (2 ^ 16 - axis report) % 2 ^ 16 ∧
          ∀ i, i ≠ 3 → i ≠ 4 → fixed[i]? = report[i]?) ∧
      module.Fixes .deviceEvent fixed report := by
  have fixes (bytes : Bytes) (small : bytes.length < 2 ^ 64) :
      module.Fixes .deviceEvent bytes (inverted bytes) :=
    TestModule.fixes_of_ensures (hook_of_opened opened) trivial small
      fun place (start : place.data = bytes) => start ▸ hook_ensures place
  have length := length_inverted report
  refine ⟨inverted report, fixes report fits, length, fun short => if_pos short,
    fun enough => ⟨?_, fun i third fourth => ?_⟩, ?_⟩
  · obtain ⟨lo, hi, -, value, once⟩ := inverted_of_long enough
    obtain ⟨low, high⟩ := getD_set_axis enough lo hi
    rw [once, axis, low, high, value]
  · obtain ⟨lo, hi, -, -, once⟩ := inverted_of_long enough
    rw [once, List.getElem?_set_ne fourth.symm, List.getElem?_set_ne third.symm]
  · have again := fixes (inverted report) (length ▸ fits)
    rw [inverted_inverted] at again
    exact again

/-- The least number is its own negation. -/
theorem TestModule.axis_inverted_least :
    let report : Bytes := [1, 2, 255, 0x00, 0x80, 6, 7, 8, 9]
    report.length < 2 ^ 64 ∧ Fixture.MouseInvertY.axis report = 2 ^ 15 ∧
    ∃ module : TestModule, module.OpenedOn Fixture.MouseInvertY.fixture ∧
      ∃ fixed, module.Fixes .deviceEvent report fixed ∧
        Fixture.MouseInvertY.axis fixed = 2 ^ 15 ∧ fixed[8]? = some 9 ∧
        module.Fixes .deviceEvent fixed report := by
  intro report
  have fits : report.length < 2 ^ 64 := by decide
  obtain ⟨module, -, -, -, opened⟩ := Fixture.exists_opened "0010-mouse_invert_y"
    Fixture.MouseInvertY.probe [(Fixture.MouseInvertY.symbol, Fixture.MouseInvertY.hook)] _
  obtain ⟨fixed, fixes, -, -, long, back⟩ := module.axis_inverted opened report fits
  obtain ⟨turned, others⟩ := long (by decide)
  have least : Fixture.MouseInvertY.axis report = 2 ^ 15 := by decide
  rw [least] at turned
  exact ⟨fits, least, module, opened, fixed, fixes, turned, others 8 (by decide) (by decide), back⟩

end HidRig
