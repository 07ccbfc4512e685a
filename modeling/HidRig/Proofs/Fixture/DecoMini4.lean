import HidRig.Fixture.DecoMini4
import HidRig.Proofs.Fixture.Opened
import HidRig.Proofs.Session.Ensured

/-! # Buttons from shortcuts

The bits that the hook of a drawing pad makes of a report depend on its modifiers and on which key
codes there are, not on their order or number.

* `DecoMini4.Shows`: the bits of a mask, one by one.
* `DecoMini4.testBit_buttons`: a bit is set at the start or by one of the key codes.
* `DecoMini4.SameButtons`: key codes that press the same buttons.
* `TestModule.buttons_mapped`: what a module makes of every report, and of what it made.
-/

namespace HidRig

namespace Fixture.DecoMini4
variable {module : TestModule}

theorem hook_of_opened (opened : module.OpenedOn fixture) :
    module.hooks .deviceEvent = .resolved symbol (.code hook) :=
  opened.hook (by decide +kernel) (by decide) (by decide)

/-! ## Bits -/

theorem eq_of_testBit {a b : UInt8} (same : ∀ i, a.toNat.testBit i = b.toNat.testBit i) : a = b :=
  UInt8.toNat_inj.mp (Nat.eq_of_testBit_eq same)

/-- The modifiers without all but one bit. -/
theorem and_two_pow (modifiers : UInt8) {flag : UInt8} (i : Nat) (bit : flag.toNat = 2 ^ i) :
    modifiers &&& flag = if modifiers.toNat.testBit i then flag else 0 := by
  apply UInt8.toNat_inj.mp
  rw [UInt8.toNat_and, bit, Nat.and_two_pow]
  cases modifiers.toNat.testBit i
  · simp
  · simp [bit]

theorem hasControl_eq (modifiers : UInt8) : hasControl modifiers = modifiers.toNat.testBit 0 := by
  rw [hasControl, and_two_pow modifiers 0 rfl]
  cases modifiers.toNat.testBit 0 <;> rfl

theorem hasAlternate_eq (modifiers : UInt8) :
    hasAlternate modifiers = modifiers.toNat.testBit 2 := by
  rw [hasAlternate, and_two_pow modifiers 2 rfl]
  cases modifiers.toNat.testBit 2 <;> rfl

theorem testBit_keyButton (modifiers key : UInt8) (i : Nat) :
    (keyButton modifiers key).toNat.testBit i ↔
      (key = 0x05 ∧ i = 0) ∨ (key = 0x08 ∧ i = 1) ∨ (key = 0x2c ∧ i = 3) ∨
        (modifiers.toNat.testBit 0 ∧ (key = 0x16 ∧ i = 4 ∨ key = 0x1d ∧ i = 5)) := by
  have flag {button : UInt8} (k : Nat) (bit : button.toNat = 2 ^ k) :
      button.toNat.testBit i ↔ i = k := by
    rw [bit, Nat.testBit_two_pow, decide_eq_true_iff, eq_comm]
  unfold keyButton
  rw [hasControl_eq]
  generalize modifiers.toNat.testBit 0 = control
  split
  · next same => exact (flag 0 rfl).trans (by simp [same])
  split
  · next same => exact (flag 1 rfl).trans (by simp [same])
  split
  · next same => exact (flag 3 rfl).trans (by simp [same])
  split
  · next same => exact (flag 4 rfl).trans (by simp [same])
  split
  · next same => exact (flag 5 rfl).trans (by simp [same])
  · cases control <;> simp_all

theorem testBit_buttons (modifiers : UInt8) (keys : Bytes) (i : Nat) :
    (buttons modifiers keys).toNat.testBit i ↔
      (modifiers.toNat.testBit 2 ∧ i = 2) ∨
        ∃ key ∈ keys, (keyButton modifiers key).toNat.testBit i := by
  have first : (if hasAlternate modifiers then 0x04 else 0 : UInt8).toNat.testBit i ↔
      modifiers.toNat.testBit 2 ∧ i = 2 := by
    rw [hasAlternate_eq]
    cases modifiers.toNat.testBit 2
    · simp
    · have bit : Nat.testBit (2 ^ 2) i ↔ i = 2 := by
        rw [Nat.testBit_two_pow, decide_eq_true_iff, eq_comm]
      simpa using bit
  rw [← first, buttons]
  -- the bits so far are those of the start and of the key codes that were seen
  generalize (if hasAlternate modifiers then 0x04 else 0 : UInt8) = bits
  induction keys generalizing bits with
  | nil => simp
  | cons key keys ih =>
    refine (ih (bits ||| keyButton modifiers key)).trans ?_
    rw [UInt8.toNat_or, Nat.testBit_or, Bool.or_eq_true, List.exists_mem_cons_iff, or_assoc]

/-- A mask shows a modifier byte and key codes, one button a bit. -/
structure Shows (mask modifiers : UInt8) (keys : Bytes) : Prop where
  bit0 : mask.toNat.testBit 0 ↔ 0x05 ∈ keys
  bit1 : mask.toNat.testBit 1 ↔ 0x08 ∈ keys
  bit2 : mask.toNat.testBit 2 ↔ modifiers &&& 0x04 ≠ 0
  bit3 : mask.toNat.testBit 3 ↔ 0x2c ∈ keys
  bit4 : mask.toNat.testBit 4 ↔ modifiers &&& 0x01 ≠ 0 ∧ 0x16 ∈ keys
  bit5 : mask.toNat.testBit 5 ↔ modifiers &&& 0x01 ≠ 0 ∧ 0x1d ∈ keys
  bit6 : ¬ mask.toNat.testBit 6
  bit7 : ¬ mask.toNat.testBit 7

theorem shows_buttons (modifiers : UInt8) (keys : Bytes) :
    Shows (buttons modifiers keys) modifiers keys := by
  have control : modifiers &&& 0x01 ≠ 0 ↔ modifiers.toNat.testBit 0 := by
    rw [← hasControl_eq, hasControl, bne_iff_ne]
  have alternate : modifiers &&& 0x04 ≠ 0 ↔ modifiers.toNat.testBit 2 := by
    rw [← hasAlternate_eq, hasAlternate, bne_iff_ne]
  have others (i : Nat) (last : 5 < i) : ¬ (buttons modifiers keys).toNat.testBit i := by
    rw [testBit_buttons]
    simp only [testBit_keyButton]
    omega
  constructor
  case bit6 => exact others 6 (by decide)
  case bit7 => exact others 7 (by decide)
  all_goals
    simp [-Nat.testBit_zero, testBit_buttons, testBit_keyButton, control, alternate, and_comm]

/-! ## Key codes -/

/-- The key codes that buttons send. -/
def mappedCodes : Bytes := [0x05, 0x08, 0x2c, 0x16, 0x1d]

/-- As many key codes, and the same ones of those that buttons send. -/
structure SameButtons (keys others : Bytes) : Prop where
  length : others.length = keys.length
  codes : ∀ code ∈ mappedCodes, code ∈ others ↔ code ∈ keys

namespace SameButtons
variable {keys others : Bytes}

/-- Key codes in another order, or another number of times. -/
theorem of_set (length : others.length = keys.length) (set : ∀ code, code ∈ others ↔ code ∈ keys) :
    SameButtons keys others :=
  ⟨length, fun code _ => set code⟩

/-- Key codes that no button sends, in place of others that none sends. -/
theorem of_unmapped (replaced : List.Forall₂
      (fun old new => new = old ∨ old ∉ mappedCodes ∧ new ∉ mappedCodes) keys others) :
    SameButtons keys others := by
  refine ⟨replaced.length_eq.symm, fun code mapped => ?_⟩
  induction replaced with
  | nil => rfl
  | cons first rest ih =>
    rw [List.mem_cons, List.mem_cons, ih]
    obtain rfl | ⟨old, new⟩ := first
    · rfl
    · have (other : UInt8) (unmapped : other ∉ mappedCodes) : code ≠ other :=
        fun same => unmapped (same ▸ mapped)
      simp [this _ old, this _ new]

theorem buttons_eq (h : SameButtons keys others) (modifiers : UInt8) :
    buttons modifiers others = buttons modifiers keys := by
  refine eq_of_testBit fun i => Bool.eq_iff_iff.mpr ?_
  rw [testBit_buttons, testBit_buttons]
  refine or_congr_right ?_
  have mapped {key : UInt8} (sets : (keyButton modifiers key).toNat.testBit i) :
      key ∈ mappedCodes := by
    obtain ⟨rfl, -⟩ | ⟨rfl, -⟩ | ⟨rfl, -⟩ | ⟨-, ⟨rfl, -⟩ | ⟨rfl, -⟩⟩ :=
      (testBit_keyButton modifiers key i).mp sets
    all_goals decide
  constructor
  · rintro ⟨key, member, sets⟩
    exact ⟨key, (h.codes key (mapped sets)).mp member, sets⟩
  · rintro ⟨key, member, sets⟩
    exact ⟨key, (h.codes key (mapped sets)).mpr member, sets⟩

end SameButtons

/-- Without key codes, only one modifier counts. -/
theorem buttons_zero (modifiers : UInt8) (n : Nat) :
    buttons modifiers (List.replicate n 0) = modifiers &&& 0x04 := by
  have idle : keyButton modifiers 0 = 0 := by simp [keyButton]
  have alternate : (if hasAlternate modifiers then 0x04 else 0 : UInt8) = modifiers &&& 0x04 := by
    rw [hasAlternate_eq, and_two_pow modifiers 2 rfl]
  rw [buttons, alternate]
  induction n with
  | zero => rfl
  | succ n ih => rw [List.replicate_succ, List.foldl_cons, idle, UInt8.or_zero, ih]

/-! ## Reports -/

/-- The report that shows a mask in place of key codes. -/
def shown (mask : UInt8) (rest : Bytes) : Bytes :=
  reportId :: mask :: (List.replicate keyCount 0 ++ rest)

/-- A report that is long enough, and of the kind with the shortcuts, is parted at its key codes. -/
theorem parted {report : Bytes} (enough : 8 ≤ report.length) (listed : report.head? = some 0x06) :
    report = 0x06 :: report.getD 1 0 :: ((report.drop 2).take 6 ++ report.drop 8) ∧
      ((report.drop 2).take 6).length = 6 := by
  match report with
  | [] => cases listed
  | [_] => simp at enough
  | first :: modifiers :: rest =>
    obtain rfl := Option.some.inj listed
    have long : 6 ≤ rest.length := by simpa using enough
    exact ⟨congrArg (fun rest => 0x06 :: modifiers :: rest) (List.take_append_drop 6 rest).symm,
      List.length_take_of_le long⟩

/-- A report that is short, or of another kind, is left alone. -/
theorem hook_ensures_other {place : Workplace}
    (other : place.data.length < 8 ∨ place.data.head? ≠ some reportId) :
    hook.Ensures place fun code last => code = 0 ∧ last.data = place.data := by
  refine .withData (fun _ => ⟨rfl, rfl⟩) fun enough => .bind (.read rfl 0 8 ?_)
  have first : (place.data.window 0 8).head? = place.data.head? := by
    simp [Bytes.window, List.head?_take]
  rw [first, if_neg (other.resolve_left (Nat.not_lt.mpr enough))]
  exact .done ⟨rfl, rfl⟩

theorem hook_ensures {place : Workplace} {modifiers : UInt8} {keys rest : Bytes}
    (length : keys.length = 6) (data : place.data = 0x06 :: modifiers :: (keys ++ rest)) :
    hook.Ensures place fun code last =>
      code = 0 ∧ last.data = shown (buttons modifiers keys) rest := by
  have start : place.data.window 0 8 = reportId :: modifiers :: keys := by
    rw [data]
    show reportId :: modifiers :: (keys ++ rest).take 6 = _
    rw [List.take_left' length]
  have written (mask : UInt8) :
      place.data.overwrite 1 (mask :: List.replicate keyCount 0) = shown mask rest := by
    have fits : 1 + (mask :: List.replicate keyCount 0).length ≤ place.data.length := by
      rw [data]
      simp [length, keyCount]
    rw [Bytes.overwrite_eq_patch fits, data, Bytes.patch]
    show [reportId] ++ _ ++ (keys ++ rest).drop 6 = _
    rw [List.drop_left' length]
    rfl
  have enough : 8 ≤ place.data.length := by simp [data, length]
  refine .withData_of_le enough (.bind (.read rfl 0 8 ?_))
  rw [start, List.head?_cons, if_pos rfl]
  exact .bind (.write rfl 1 _ (.done ⟨rfl, written _⟩))

/-- A report with shortcuts shows its buttons. -/
theorem fixes_listed (opened : module.OpenedOn fixture) (modifiers : UInt8) {keys rest : Bytes}
    (length : keys.length = 6) (small : rest.length + 8 < 2 ^ 64) :
    module.Fixes .deviceEvent (0x06 :: modifiers :: (keys ++ rest))
      (shown (buttons modifiers keys) rest) := by
  refine TestModule.fixes_of_ensures (hook_of_opened opened) trivial ?_
    fun place start => hook_ensures length start
  rw [List.length_cons, List.length_cons, List.length_append, length]
  omega

end Fixture.DecoMini4

open Fixture.DecoMini4 in
/-- On every report, a module with this hook succeeds. It leaves a report alone that is short or of
another kind. In any other, a mask takes the place of the modifiers, and zeros that of the six key
codes. The mask shows the modifiers and which key codes there are: six others that press the same
buttons make the same of the report. Called on its own output, the module leaves one bit of the
mask, and called on that, it changes nothing. -/
theorem TestModule.buttons_mapped (module : TestModule) (opened : module.OpenedOn fixture)
    (report : Bytes) (fits : report.length < 2 ^ 64) :
    let modifiers := report.getD 1 0
    let keys := (report.drop 2).take 6
    let shown (mask : UInt8) : Bytes := 0x06 :: mask :: (List.replicate 6 0 ++ report.drop 8)
    (report.length < 8 ∨ report.head? ≠ some 0x06 → module.Fixes .deviceEvent report report) ∧
    (8 ≤ report.length → report.head? = some 0x06 →
      ∃ mask, Shows mask modifiers keys ∧
        module.Fixes .deviceEvent report (shown mask) ∧
        (∀ others, SameButtons keys others →
          module.Fixes .deviceEvent (report.take 2 ++ others ++ report.drop 8) (shown mask)) ∧
        module.Fixes .deviceEvent (shown mask) (shown (mask &&& 0x04)) ∧
        module.Fixes .deviceEvent (shown (mask &&& 0x04)) (shown (mask &&& 0x04))) := by
  intro modifiers keys shown
  refine ⟨fun other => ?_, fun enough listed => ?_⟩
  · exact TestModule.fixes_of_ensures (hook_of_opened opened) trivial fits
      fun place (start : place.data = report) => start ▸ hook_ensures_other (start ▸ other)
  · obtain ⟨parts, length⟩ := parted enough listed
    have small : (report.drop 8).length + 8 < 2 ^ 64 := by
      rw [List.length_drop]
      omega
    have front : report.take 2 = [0x06, modifiers] := by
      rw [parts]
      rfl
    have again (mask : UInt8) : module.Fixes .deviceEvent (shown mask) (shown (mask &&& 0x04)) := by
      have six : (List.replicate 6 (0 : UInt8)).length = 6 := rfl
      have fixed := fixes_listed opened mask six small
      rwa [buttons_zero] at fixed
    refine ⟨buttons modifiers keys, shows_buttons modifiers keys, ?_, fun others same => ?_,
      again _, ?_⟩
    · have fixed := fixes_listed opened modifiers length small
      rwa [← parts] at fixed
    · rw [front, ← same.buttons_eq modifiers]
      exact fixes_listed opened modifiers (same.length.trans length) small
    · have kept := again (buttons modifiers keys &&& 0x04)
      rwa [UInt8.and_assoc, UInt8.and_self] at kept

open Fixture.DecoMini4 in
/-- Three buttons are pressed besides a modifier, by key codes in two orders and among others that no
button sends. -/
theorem TestModule.buttons_mapped_pressed :
    let report : Bytes := [6, 5, 0x16, 0x05, 0, 0, 0, 0x2c, 9]
    report.length < 2 ^ 64 ∧
    ∃ module : TestModule, module.OpenedOn fixture ∧
      ∃ mask : UInt8, mask.toNat.testBit 4 ∧ ¬ mask.toNat.testBit 5 ∧
        module.Fixes .deviceEvent report [6, mask, 0, 0, 0, 0, 0, 0, 9] ∧
        module.Fixes .deviceEvent [6, 5, 0x05, 0x2c, 0x16, 0x16, 0, 0, 9]
          [6, mask, 0, 0, 0, 0, 0, 0, 9] ∧
        module.Fixes .deviceEvent [6, 5, 0x16, 0x05, 0x77, 0, 0x78, 0x2c, 9]
          [6, mask, 0, 0, 0, 0, 0, 0, 9] ∧
        module.Fixes .deviceEvent [6, mask, 0, 0, 0, 0, 0, 0, 9]
          [6, mask &&& 0x04, 0, 0, 0, 0, 0, 0, 9] := by
  intro report
  have fits : report.length < 2 ^ 64 := by decide
  obtain ⟨module, -, -, -, opened⟩ := Fixture.exists_opened "0010-XPPen__DecoMini4"
    Fixture.acceptAll [(symbol, hook)] _
  obtain ⟨-, listed⟩ := module.buttons_mapped opened report fits
  obtain ⟨mask, shows_, fixed, alike, again, -⟩ := listed (by decide) rfl
  have reordered : SameButtons [0x16, 0x05, 0, 0, 0, 0x2c] [0x05, 0x2c, 0x16, 0x16, 0, 0] :=
    .of_set rfl fun code => by
      simp only [List.mem_cons, List.not_mem_nil, or_false]
      grind
  have replaced : SameButtons [0x16, 0x05, 0, 0, 0, 0x2c] [0x16, 0x05, 0x77, 0, 0x78, 0x2c] :=
    .of_unmapped (by simp only [List.forall₂_cons, List.Forall₂.nil]; decide)
  exact ⟨fits, module, opened, mask, shows_.bit4.mpr ⟨by decide, by decide⟩,
    fun set => absurd (shows_.bit5.mp set).2 (by decide), fixed, alike _ reordered, alike _ replaced,
    again⟩

end HidRig
