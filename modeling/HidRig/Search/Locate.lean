import HidRig.Search.Config
import HidRig.Fault
import HidRig.Program.Document

/-! # Finding artifacts

* `SearchConfig.locate`: the first directory of the search path in which the artifact of a module is
  a file. Without directories the bare file name is left to the system loader.
* `Document.load`: the programs that the document at a path lists.
-/

namespace HidRig

structure Location where
  library : Path
  metadata : Path
deriving DecidableEq, Repr

namespace SearchConfig

variable {Image : Type}

/-- Whether a name can be part of a file name. -/
def isValidName (name : String) : Bool :=
  name ≠ "" && !name.toList.contains '/' && !name.toList.contains '\\'

/-- The location with a given shared object: the document lies in its directory. -/
def locationOf (config : SearchConfig) (name : String) (library : Path) : Location :=
  let metadata := Path.ofText (config.metadataName name)
  ⟨library, (library.parent?.map fun dir => dir.join metadata).getD metadata⟩

/-- The paths at which the artifact of a module may be. -/
def candidates (config : SearchConfig) (name : String) : List Path :=
  config.searchPath.map fun dir => dir.join (Path.ofText (config.artifactName name))

def locate (config : SearchConfig) (disk : Disk Image) (name : String) :
    Except LoadFault Location :=
  if !isValidName name then .error (.invalidName name)
  else if config.searchPath = [] then
    .ok ⟨Path.ofText (config.artifactName name), Path.ofText (config.metadataName name)⟩
  else
    match (config.candidates name).find? disk.isFile with
    | some library => .ok (config.locationOf name library)
    | none => .error (.artifactNotFound (config.artifactName name) config.searched)

end SearchConfig

/-- The programs that the document at a path lists. -/
def Document.load {Image : Type} (disk : Disk Image) (path : Path) :
    Except MetadataFault (List ProgramRecord) :=
  match disk.readText path with
  | .error cause => .error (.unreadable path cause)
  | .ok text => (Document.parse text).mapError (.unparsable path)

end HidRig
