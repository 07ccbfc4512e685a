import HidRig.Abi.Limits
import HidRig.Abi.Report
import HidRig.Text.Quoted

/-! # Hook contexts

* `HookContext`: what a hook is told about the report it works on.
* `HookContext.forBuffer`: the context for a buffer and the part of it in use.
-/

namespace HidRig

structure HookContext where
  /-- The program slot, or the device id of a context that was asked for. -/
  index : UInt32
  /-- The address of the device, which nothing reads. -/
  device : UInt64
  allocatedSize : UInt32
  reportType : Int32
  /-- The size of the report on entry, a result after it. -/
  retvalOrSize : Int32
deriving DecidableEq, Repr

namespace HookContext

/-- The context with all fields zero: an input report without a buffer. -/
def empty : HookContext :=
  ⟨0, 0, 0, ReportType.input.raw, 0⟩

instance : Inhabited HookContext := ⟨empty⟩

def forIndex (index : UInt32) : HookContext :=
  { empty with index }

def withReportType (ctx : HookContext) (t : ReportType) : HookContext :=
  { ctx with reportType := t.raw }

def withAllocatedSize (ctx : HookContext) (n : UInt32) : HookContext :=
  { ctx with allocatedSize := n }

def allocated (hid : UInt32) : HookContext :=
  (forIndex hid).withAllocatedSize (UInt32.ofNat Abi.bufferSize)

/-- The context for a buffer of `allocated` bytes with `size` bytes in use. Sizes past the fields'
ranges become the greatest that fit. -/
def forBuffer (allocated size : Nat) : HookContext :=
  { empty with
    allocatedSize := UInt32.ofNat (min allocated Abi.maxWord)
    retvalOrSize := Int32.ofNat (min size Abi.maxSigned) }

def debug (ctx : HookContext) : String :=
  Text.record "ExecutionContext"
    [("index", toString ctx.index.toNat), ("hid", "0x" ++ Bytes.hexNumber ctx.device.toNat),
      ("allocated_size", toString ctx.allocatedSize.toNat),
      ("report_type", toString ctx.reportType.toInt),
      ("retval_or_size", toString ctx.retvalOrSize.toInt)]

end HookContext

end HidRig
