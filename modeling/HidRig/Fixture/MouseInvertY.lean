import HidRig.Fixture.Basic

/-! # A mouse with its vertical axis upside down

* `MouseInvertY.negate16`: the negation of a signed 16-bit number in memory order.
* `MouseInvertY.hook`: negates the vertical axis of a report.
-/

namespace HidRig.Fixture.MouseInvertY

def reportSize : UInt64 := 9

def axisOffset : Nat := 3

/-- The length of the descriptor of the mouse interface. -/
def descriptorSize : UInt32 := 71

/-- A byte as a signed number of 32 bits, the kind that is calculated with. -/
def widen (b : UInt8) : Int32 :=
  b.toUInt32.toInt32

def lowByte (n : Int32) : UInt8 :=
  (n &&& 0xff).toUInt32.toUInt8

/-- The signed number that two bytes hold, the low one first. -/
def word16 (bytes : Bytes) : Int16 :=
  (widen (bytes.getD 0 0) ||| widen (bytes.getD 1 0) <<< 8).toInt16

/-- The two bytes of a signed number, the low one first. -/
def bytes16 (n : Int16) : Bytes :=
  [lowByte n.toInt32, lowByte (n.toInt32 >>> 8)]

/-- The negation of a signed 16-bit number in memory order. That of the least one does not fit, and
is cut to the number itself. -/
def negate16 (bytes : Bytes) : Bytes :=
  bytes16 (-(word16 bytes).toInt32).toInt16

def hook : Native Int32 :=
  withData reportSize fun window => do
    let axis ← Native.read window axisOffset 2
    Native.write window axisOffset (negate16 axis)
    pure 0

def probe : Native Int32 :=
  verdict fun args => args.rdescSize = descriptorSize

def symbol : String := "hid_y_event"

/-- The module. Its document also lists what is no program of a role. -/
def fixture : Fixture :=
  .ofEntries "0010-mouse_invert_y" probe [(symbol, hook)]
    (some [⟨"fmod_ret/hid_bpf_device_event", symbol⟩, probeRecord, ⟨"license", "_license"⟩])

end HidRig.Fixture.MouseInvertY
