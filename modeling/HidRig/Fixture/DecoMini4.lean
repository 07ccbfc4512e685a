import HidRig.Fixture.Basic

/-! # A drawing pad whose buttons come as keyboard shortcuts

The pad sends a modifier byte and up to six key codes. The hook turns them into one bit for each of
the six buttons.

* `DecoMini4.buttons`: the bits of a modifier byte and key codes.
* `DecoMini4.hook`: writes the bits and clears the key codes.
-/

namespace HidRig.Fixture.DecoMini4

/-- The number of the report with the shortcuts. -/
def reportId : UInt8 := 0x06

def reportSize : UInt64 := 8

def keyCount : Nat := 6

def hasControl (modifiers : UInt8) : Bool :=
  modifiers &&& 0x01 != 0

def hasAlternate (modifiers : UInt8) : Bool :=
  modifiers &&& 0x04 != 0

/-- The bit of the button that sends a key code. -/
def keyButton (modifiers key : UInt8) : UInt8 :=
  if key = 0x05 then 0x01
  else if key = 0x08 then 0x02
  else if key = 0x2c then 0x08
  else if key = 0x16 ∧ hasControl modifiers then 0x10
  else if key = 0x1d ∧ hasControl modifiers then 0x20
  else 0

/-- The bits of the buttons that send a modifier byte and key codes. -/
def buttons (modifiers : UInt8) (keys : Bytes) : UInt8 :=
  keys.foldl (fun bits key => bits ||| keyButton modifiers key)
    (if hasAlternate modifiers then 0x04 else 0)

/-- Turns the shortcuts of a report into button bits. -/
def hook : Native Int32 :=
  withData reportSize fun window => do
    let report ← Native.read window 0 (2 + keyCount)
    if report.head? = some reportId then
      let bits := buttons (report.getD 1 0) (report.drop 2)
      Native.write window 1 (bits :: List.replicate keyCount 0)
    pure 0

def symbol : String := "hid_fix_event_xppen_deco_mini_4"

def fixture : Fixture :=
  .ofEntries "0010-XPPen__DecoMini4" acceptAll [(symbol, hook)] (singleHook .deviceEvent symbol)

end HidRig.Fixture.DecoMini4
