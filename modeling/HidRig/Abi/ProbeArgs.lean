import HidRig.Abi.Limits
import HidRig.Text.Quoted

/-! # The probe argument

* `ProbeArgs`: device id, declared descriptor size, descriptor buffer and verdict.
* `ProbeArgs.ofDescriptor?`: the argument for a descriptor that fits the buffer.
* `ProbeArgs.descriptor`: the declared part of the buffer.
-/

namespace HidRig

/-- The argument of a probe. The module writes its verdict into it. -/
structure ProbeArgs where
  hid : UInt32
  rdescSize : UInt32
  /-- The descriptor buffer. Bytes past the declared length are passed on untouched. -/
  rdesc : Bytes
  retval : Int32
  length_rdesc : rdesc.length = Abi.bufferSize
deriving DecidableEq

namespace ProbeArgs

/-- An argument with a given buffer, cut or padded to the buffer size. -/
def ofBuffer (hid rdescSize : UInt32) (rdesc : Bytes) (retval : Int32) : ProbeArgs :=
  ⟨hid, rdescSize, rdesc.resize Abi.bufferSize 0, retval, by simp⟩

def empty : ProbeArgs :=
  ofBuffer 0 0 [] 0

instance : Inhabited ProbeArgs := ⟨empty⟩

/-- The argument for a descriptor, or `none` if it does not fit the buffer. -/
def ofDescriptor? (rdesc : Bytes) : Option ProbeArgs :=
  if rdesc.length ≤ Abi.bufferSize then
    some (ofBuffer 0 (UInt32.ofNat rdesc.length) rdesc 0)
  else none

/-- Declares another descriptor length. The buffer stays. -/
def withRdescSize (args : ProbeArgs) (n : UInt32) : ProbeArgs :=
  { args with rdescSize := n }

def withHid (args : ProbeArgs) (n : UInt32) : ProbeArgs :=
  { args with hid := n }

def withRetval (args : ProbeArgs) (n : Int32) : ProbeArgs :=
  { args with retval := n }

def write (args : ProbeArgs) (start : Nat) (bytes : Bytes) : ProbeArgs :=
  { args with
    rdesc := args.rdesc.overwrite start bytes
    length_rdesc := by simp [args.length_rdesc] }

def byte (args : ProbeArgs) (i : Nat) : UInt8 :=
  args.rdesc.getD i 0

def descriptor (args : ProbeArgs) : Bytes :=
  args.rdesc.take args.rdescSize.toNat

def isAccepted (args : ProbeArgs) : Bool :=
  args.retval = 0

/-- The fields for a diagnostic. Of the buffer only the declared part is shown. -/
def fields (args : ProbeArgs) : List Text.Field :=
  [("hid", toString args.hid.toNat), ("rdesc_size", toString args.rdescSize.toNat),
    ("rdesc", Text.list args.descriptor.hexPairs), ("retval", toString args.retval.toInt)]

def debug (args : ProbeArgs) : String :=
  Text.record "ProbeArgs" args.fields

/-- The diagnostic form with one field a line. -/
def debugTall (args : ProbeArgs) : String :=
  Text.tallRecord "ProbeArgs" args.fields

end ProbeArgs

end HidRig
