import HidRig.Fixture.Basic

/-! # Descriptors with a wrong number of buttons

Two devices whose descriptor has one byte wrong, the greatest button. The hooks put it right.

* `RaptorMach2`: a flight stick that declares more buttons than fit the field.
* `M50Silent`: a mouse that declares three buttons and has five.
-/

namespace HidRig.Fixture

/-- The size of the buffer that a descriptor fixup asks for. -/
def descriptorRoom : UInt64 := UInt64.ofNat Abi.bufferSize

namespace RaptorMach2

def descriptorSize : UInt32 := 232

def buttonOffset : Nat := 177

def declaredButton : UInt8 := 0xef

def wiredButton : UInt8 := 0x07

def hook : Native Int32 :=
  withData descriptorRoom fun window => do
    Native.write window buttonOffset [wiredButton]
    pure 0

/-- Accepts descriptors that have not been put right. -/
def probe : Native Int32 :=
  verdict fun args => args.rdescSize = descriptorSize && args.byte buttonOffset = declaredButton

def symbol : String := "hid_fix_rdesc_raptor_mach_2"

def fixture : Fixture :=
  .ofEntries "0010-FR-TEC__Raptor-Mach-2" probe [(symbol, hook)]
    (singleHook .reportDescriptorFixup symbol)

end RaptorMach2

namespace M50Silent

def buttonOffset : Nat := 17

def declaredButton : UInt8 := 0x03

def wiredButton : UInt8 := 0x05

/-- Writes the greatest button in place of the declared one. -/
def hook : Native Int32 :=
  withData descriptorRoom fun window => do
    let button ← Native.read window buttonOffset 1
    if button = [declaredButton] then Native.write window buttonOffset [wiredButton]
    pure 0

def symbol : String := "hid_fix_rdesc_rapoo_m50"

def fixture : Fixture :=
  .ofEntries "0010-Rapoo__M50-Plus-Silent" acceptAll [(symbol, hook)]
    (singleHook .reportDescriptorFixup symbol)

end M50Silent

end HidRig.Fixture
