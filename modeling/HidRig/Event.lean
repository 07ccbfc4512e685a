import HidRig.Fault
import HidRig.Program.Binding

/-! # Events

What the rig reports while it works.

* `Event`: one report, with its `level`, its `message` and its named `fields`.
-/

namespace HidRig

inductive Level where
  | debug
  | info
  | warn
  | error
deriving DecidableEq, Repr

def Level.name : Level → String
  | debug => "DEBUG"
  | info => "INFO"
  | warn => "WARN"
  | error => "ERROR"

inductive FieldValue where
  | number (n : Int)
  | text (s : String)
deriving DecidableEq, Repr

inductive Event where
  /-- A program of a document comes too late for its role. -/
  | duplicateProgram (duplicate : Binding.Duplicate)
  | strayAllocation (hid : UInt32)
  /-- A module gave back a context that is not on the list of the invocation. -/
  | strayRelease
  | strayRequest (reportType requestKind : Int32)
  /-- An invocation started inside another on the same thread. -/
  | bridgeReplaced
  /-- A module kept contexts past the end of the invocation. -/
  | contextsLeaked (count : Nat)
  | probed (module : String) (code retval : Int32)
  | hooked (module : String) (role : Role) (code : Int32) (size requests : Nat)
  | noMetadata (fault : MetadataFault)
  | cacheHit (module : String)
  | loaded (module : String) (path : Path) (handle : String)
  /-- A module could not be loaded where it had to be. -/
  | loadFailed (module : String) (fault : LoadFault)
deriving DecidableEq, Repr

namespace Event

def level : Event → Level
  | duplicateProgram _ | strayAllocation _ | strayRelease | strayRequest .. | bridgeReplaced
  | contextsLeaked _ => .warn
  | probed .. | hooked .. | noMetadata _ | cacheHit _ => .debug
  | loaded .. => .info
  | loadFailed .. => .error

def message : Event → String
  | duplicateProgram _ => "Duplicate program for role in module metadata"
  | strayAllocation _ => "Context requested outside of an invocation"
  | strayRelease => "Ignoring release of a context the harness did not allocate"
  | strayRequest .. => "Hardware request outside of an invocation"
  | bridgeReplaced => "Replacing a bridge that was still armed on this thread"
  | contextsLeaked _ => "Module did not release every context it allocated"
  | probed .. | hooked .. => "Invoked test module"
  | noMetadata _ => "No usable program metadata, hooks unresolved"
  | cacheHit _ => "Test module cache hit"
  | loaded .. => "Test module loaded"
  | loadFailed .. => "Unable to load test module"

def fields : Event → List (String × FieldValue)
  | duplicateProgram d =>
    [("role", .text d.role.label), ("bound", .text d.bound), ("ignored", .text d.ignored)]
  | strayAllocation hid => [("hid", .number hid.toNat)]
  | strayRelease => [("ctx", .text "<pointer>")]
  | strayRequest reportType requestKind =>
    [("report_type", .number reportType.toInt), ("request_kind", .number requestKind.toInt)]
  | bridgeReplaced => []
  | contextsLeaked count => [("leaked", .number count)]
  | probed module code retval =>
    [("module", .text module), ("operation", .text Operation.probe.label),
      ("code", .number code.toInt), ("retval", .number retval.toInt)]
  | hooked module role code size requests =>
    [("module", .text module), ("operation", .text (Operation.hook role).label),
      ("code", .number code.toInt), ("size", .number size), ("hw_requests", .number requests)]
  | noMetadata fault => [("error", .text fault.message)]
  | cacheHit module => [("module", .text module)]
  | loaded module path handle =>
    [("module", .text module), ("path", .text path.display), ("handle", .text handle)]
  | loadFailed module fault => [("module", .text module), ("error", .text fault.message)]

end Event

end HidRig
