/-! # Sizes, names and codes of the test interface

What a native test module and its rig agree on: the size of the descriptor buffer, the symbols that
every module exports, the section suffixes of hooks, error numbers, and the memory layout of the
structures that are passed by pointer.

* `Abi.Layout.ofFields`: size, alignment and offsets from the sizes of the fields.
-/

namespace HidRig.Abi

/-- The size of the descriptor buffer. A descriptor fixup always works on a buffer of this size. -/
def bufferSize : Nat := 4096

/-- The greatest number of a 32-bit field. -/
def maxWord : Nat := 0xffffffff

/-- The greatest number of a signed 32-bit field. -/
def maxSigned : Nat := 0x7fffffff

/-! ## Exported symbols -/

/-- The symbol of the entry point that accepts or rejects a device. -/
def probeSymbol : String := "probe"

/-- The symbol of the entry point that takes the table of kernel services. -/
def setCallbacksSymbol : String := "set_callbacks"

/-- The end of the section names of descriptor fixups. -/
def rdescFixupSuffix : String := "rdesc_fixup"

/-- The end of the section names of event hooks. -/
def deviceEventSuffix : String := "device_event"

/-! ## Error numbers -/

def eperm : Int32 := 1

def eio : Int32 := 5

def enomem : Int32 := 12

/-- An invalid argument: the usual verdict on a device that does not match. -/
def einval : Int32 := 22

/-! ## Memory layout -/

structure Extent where
  size : Nat
  /-- The number that every address is a multiple of. -/
  align : Nat
deriving DecidableEq, Repr

def Extent.word : Extent := ⟨4, 4⟩

/-- The extent of a pointer or size. -/
def Extent.pointer : Extent := ⟨8, 8⟩

def Extent.bytes (n : Nat) : Extent := ⟨n, 1⟩

structure Layout where
  size : Nat
  align : Nat
  offsets : List Nat
deriving DecidableEq, Repr

/-- The least multiple of `align` from `n` on. -/
def alignUp (n align : Nat) : Nat :=
  (n + align - 1) / align * align

/-- Each field starts at the first aligned place after the one before, and the size is padded to
the greatest alignment. -/
def Layout.ofFields (fields : List Extent) : Layout :=
  let placed := fields.foldl
    (fun (at_ : Nat × List Nat) f =>
      let start := alignUp at_.1 f.align
      (start + f.size, at_.2 ++ [start])) (0, [])
  let align := (fields.map Extent.align).foldl max 1
  ⟨alignUp placed.1 align, align, placed.2⟩

/-- The layout of the probe argument: device id, descriptor size, descriptor, verdict. -/
def probeArgsLayout : Layout :=
  .ofFields [.word, .word, .bytes bufferSize, .word]

/-- The layout of a hook context: index, device, buffer size, report type, size or result. -/
def hookContextLayout : Layout :=
  .ofFields [.word, .pointer, .word, .word, .word]

/-- The layout of the service table: three functions, the buffer and its length. -/
def serviceTableLayout : Layout :=
  .ofFields [.pointer, .pointer, .pointer, .pointer, .pointer]

end HidRig.Abi
