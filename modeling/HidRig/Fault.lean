import HidRig.Role
import HidRig.Disk
import HidRig.Json.Fault

/-! # Faults of the rig

* `LoadFault`: a module could not be loaded. The run is set up wrongly.
* `InvocationFault`: an entry point failed or could not be called.
* `MetadataFault`: a metadata document could not be used.

Each has a `message` for people; the first two also a diagnostic form.
-/

namespace HidRig

/-- What to try when a module cannot be loaded. -/
def searchPathHint : String := "Maybe export HID_BPF_TEST_PATH=builddir/test"

inductive LoadFault where
  /-- The name cannot be part of a file name. -/
  | invalidName (name : String)
  /-- No directory of the search path holds the artifact. -/
  | artifactNotFound (artifact searched : String)
  | libraryLoadFailed (artifact reason : String)
  | missingSymbol (artifact symbol reason : String)
deriving DecidableEq, Repr

namespace LoadFault

def name : LoadFault → String
  | invalidName _ => "InvalidName"
  | artifactNotFound .. => "ArtifactNotFound"
  | libraryLoadFailed .. => "LibraryLoadFailed"
  | missingSymbol .. => "MissingSymbol"

def message : LoadFault → String
  | invalidName name =>
    "Invalid test module name " ++ Text.quote name
      ++ ": must be non-empty and contain no path separator"
  | artifactNotFound artifact searched =>
    "Unable to find " ++ artifact ++ " in [" ++ searched ++ "]. " ++ searchPathHint
  | libraryLoadFailed artifact reason =>
    "Error loading the library " ++ artifact ++ ": " ++ reason ++ ". " ++ searchPathHint
  | missingSymbol artifact symbol reason =>
    artifact ++ " does not export `" ++ symbol ++ "`: " ++ reason

def fields : LoadFault → List Text.Field
  | invalidName name => [("name", Text.quote name)]
  | artifactNotFound artifact searched =>
    [("artifact", Text.quote artifact), ("searched", Text.quote searched)]
  | libraryLoadFailed artifact reason =>
    [("artifact", Text.quote artifact), ("reason", Text.quote reason)]
  | missingSymbol artifact symbol reason =>
    [("artifact", Text.quote artifact), ("symbol", Text.quote symbol),
      ("reason", Text.quote reason)]

def debug (fault : LoadFault) : String :=
  Text.record fault.name fault.fields

end LoadFault

inductive InvocationFault where
  | returnCode (module : String) (operation : Operation) (code : Int32)
  /-- The module has no entry point for the role. -/
  | unresolvedRole (module : String) (role : Role) (reason : String)
  | payloadTooLarge (length limit : Nat)
deriving DecidableEq, Repr

namespace InvocationFault

def name : InvocationFault → String
  | returnCode .. => "ReturnCode"
  | unresolvedRole .. => "UnresolvedRole"
  | payloadTooLarge .. => "PayloadTooLarge"

/-- The code that the entry point returned, if it failed by one. -/
def code? : InvocationFault → Option Int32
  | returnCode _ _ code => some code
  | _ => none

def message : InvocationFault → String
  | returnCode module operation code =>
    operation.label ++ " of " ++ module ++ " returned " ++ toString code.toInt
  | unresolvedRole module role reason =>
    module ++ " has no " ++ role.label ++ " entry point: " ++ reason
  | payloadTooLarge length limit =>
    "Report descriptor of " ++ toString length ++ " bytes exceeds the " ++ toString limit
      ++ " byte buffer"

def fields : InvocationFault → List Text.Field
  | returnCode module operation code =>
    [("module", Text.quote module), ("operation", operation.name),
      ("code", toString code.toInt)]
  | unresolvedRole module role reason =>
    [("module", Text.quote module), ("role", role.name), ("reason", Text.quote reason)]
  | payloadTooLarge length limit => [("len", toString length), ("max", toString limit)]

def debug (fault : InvocationFault) : String :=
  Text.record fault.name fault.fields

end InvocationFault

/-- A fault of the rig: of loading or of an invocation. -/
inductive Fault where
  | load (fault : LoadFault)
  | invocation (fault : InvocationFault)
deriving DecidableEq, Repr

/-- The wording of a fault is that of its cause. -/
def Fault.message : Fault → String
  | load fault => fault.message
  | invocation fault => fault.message

inductive MetadataFault where
  | unreadable (path : Path) (cause : DiskFault)
  | unparsable (path : Path) (cause : Json.Fault)
deriving DecidableEq, Repr

namespace MetadataFault

def causeMessage : MetadataFault → String
  | unreadable _ cause => cause.message
  | unparsable _ cause => cause.message

def message : MetadataFault → String
  | unreadable path cause => "Unable to read " ++ path.display ++ ": " ++ cause.message
  | unparsable path cause =>
    "Malformed program metadata in " ++ path.display ++ ": " ++ cause.message

end MetadataFault

end HidRig
