import HidRig.Fixture.Basic

/-! # Modules that do little

* `Plain.idle`: accepts every device and changes nothing.
* `Plain.failing`, `Plain.probeError`: entry points that fail.
* `Plain.workQueue`: prints a line for each report.
* `Plain.unlisted`, `Plain.withoutServices`, `Plain.withoutProbe`: modules with something missing.
* `Plain.scripted`: entry points that run what a step tells them to.
-/

namespace HidRig.Fixture.Plain

def idle : Fixture :=
  .ofEntries "0010-noop" acceptAll
    [("hid_noop_rdesc_fixup", pure 0), ("hid_noop_device_event", pure 0)]
    (some [hookRecord .reportDescriptorFixup "hid_noop_rdesc_fixup",
      hookRecord .deviceEvent "hid_noop_device_event", probeRecord])

/-- Rejects every device and fails every descriptor fixup. -/
def failing : Fixture :=
  .ofEntries "0010-failing" (verdict fun _ => false)
    [("hid_failing_rdesc_fixup", pure (-Abi.eio))]
    (singleHook .reportDescriptorFixup "hid_failing_rdesc_fixup")

/-- A probe that changes its argument and then fails. -/
def failingProbe : Native Int32 := do
  Native.editArgs fun args => (args.withRetval (-Abi.einval)).write 0 [0xff]
  pure (-Abi.eio)

/-- The probe fails as a function, not only by its verdict. -/
def probeError : Fixture :=
  .ofEntries "0010-probe-error" failingProbe [] (some [probeRecord])

/-- Prints a line with the number of a report. -/
def announce : Native Int32 :=
  withData 1 fun window => do
    let first ← Native.read window 0 1
    Native.printLine
      ("report " ++ toString (first.getD 0 0).toNat ++ ": scheduling deferred work")
    pure 0

/-- Prints a line for each report, and leaves the report as it is. -/
def workQueue : Fixture :=
  .ofEntries "0010-workqueue" acceptAll [("hid_workqueue_event", announce)]
    (singleHook .deviceEvent "hid_workqueue_event")

def unlisted : Fixture :=
  .ofEntries "0010-no-metadata" acceptAll [("hid_unlisted_device_event", pure 0)] none

/-- Is linked without the functions that reach the services. -/
def withoutServices : Fixture :=
  ⟨"0010-missing-callbacks", ⟨[(Abi.probeSymbol, .code acceptAll)]⟩, none⟩

def withoutProbe : Fixture :=
  ⟨"no-probe", imageOf [], none⟩

/-- Runs the script of the step that calls it. -/
def scripted : Fixture :=
  ⟨"scripted",
    imageOf [(Abi.probeSymbol, .scripted), ("hid_script_rdesc", .scripted),
      ("hid_script_event", .scripted)], none⟩

end HidRig.Fixture.Plain
