import HidRig.Native.Image
import HidRig.Program.Document
import HidRig.Role

/-! # Fixtures

Small native modules to try the rig on.

* `Fixture`: a module with the programs that its document lists.
* `Fixture.verdict`: the usual probe, which sets a verdict by a test.
* `Fixture.ofEntries`: a module linked with the functions that reach the kernel services.
-/

namespace HidRig

structure Fixture where
  name : String
  image : Image
  /-- The programs of its document, if it has one. -/
  programs : Option (List ProgramRecord)

namespace Fixture

/-- The functions through which a module reaches the kernel services. -/
def serviceSymbols : List String :=
  [Abi.setCallbacksSymbol, "hid_bpf_get_data", "hid_bpf_allocate_context",
    "hid_bpf_release_context", "hid_bpf_hw_request", "bpf_wq_set_callback_impl"]

/-- The shared object of some entry points and the functions that reach the services. -/
def imageOf (entries : List (String × EntryPoint)) : Image :=
  ⟨entries ++ serviceSymbols.map (·, .helper)⟩

/-- A module of native code: a probe and hooks. -/
def ofEntries (name : String) (probe : Native Int32) (hooks : List (String × Native Int32))
    (programs : Option (List ProgramRecord)) : Fixture :=
  ⟨name, imageOf ((Abi.probeSymbol, .code probe) :: hooks.map fun h => (h.1, .code h.2)), programs⟩

/-! ## Programs -/

def probeRecord : ProgramRecord := ⟨"syscall", Abi.probeSymbol⟩

def hookRecord (role : Role) (symbol : String) : ProgramRecord :=
  ⟨"struct_ops/" ++ role.label, symbol⟩

def singleHook (role : Role) (symbol : String) : Option (List ProgramRecord) :=
  some [hookRecord role symbol, probeRecord]

def document? (fixture : Fixture) : Option String :=
  fixture.programs.map Document.json

/-! ## Code -/

/-- A probe that accepts the devices for which a test holds. -/
def verdict (accepts : ProbeArgs → Bool) : Native Int32 := do
  Native.editArgs fun args => args.withRetval (if accepts args then 0 else -Abi.einval)
  pure 0

def acceptAll : Native Int32 :=
  verdict fun _ => true

/-- A hook that does something at the first bytes of the buffer, if it has that many. -/
def withData (size : UInt64) (body : Window → Native Int32) : Native Int32 := do
  match ← Native.getData 0 size with
  | none => pure 0
  | some window => body window

end Fixture

end HidRig
