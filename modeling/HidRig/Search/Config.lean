import HidRig.Path
import HidRig.Json.Typed
import HidRig.Json.Printer

/-! # Search configuration

* `SearchConfig`: the directories searched for modules, and the start of their file names.
* `SearchConfig.ofLookup`: the configuration from environment variables, with the variables asked
  for.
* `SearchConfig.artifactName`, `SearchConfig.metadataName`: the file names of a module.
* `SearchConfig.read`, `SearchConfig.json`: the form in documents.
-/

namespace HidRig

structure SearchConfig where
  /-- The directories, in the order in which they are searched. -/
  searchPath : List Path
  /-- What comes before the module name in file names. -/
  artifactPrefix : String
deriving DecidableEq, Repr

namespace SearchConfig

def pathVariable : String := "HID_BPF_TEST_PATH"

/-- The variable used when the first is unset or empty. -/
def fallbackVariable : String := "LD_LIBRARY_PATH"

def defaultPrefix : String := "libtest-"

/-- The end of the names of shared objects. -/
def artifactSuffix : String := ".so"

/-- The end of the names of metadata documents, after a dot. -/
def metadataExtension : String := "json"

def default : SearchConfig := ⟨[], defaultPrefix⟩

instance : Inhabited SearchConfig := ⟨default⟩

/-! ## Environment -/

/-- The byte between the directories of a search path. -/
def colonByte : UInt8 := 58

/-- The directories of a search path. Empty ones are left out. -/
def splitPaths (value : Bytes) : List Path :=
  (value.splitBy (· = colonByte)).filter (· ≠ [])

/-- The variables asked for in turn, and the value found. -/
def askVariables (lookup : String → Option Bytes) : List String × Option Bytes :=
  match (lookup pathVariable).filter (· ≠ []) with
  | some value => ([pathVariable], some value)
  | none => ([pathVariable, fallbackVariable], lookup fallbackVariable)

def ofLookup (lookup : String → Option Bytes) : SearchConfig :=
  { default with searchPath := ((askVariables lookup).2.map splitPaths).getD [] }

/-! ## Changes -/

def withSearchDir (config : SearchConfig) (dir : Path) : SearchConfig :=
  { config with searchPath := config.searchPath ++ [dir] }

def withArtifactPrefix (config : SearchConfig) (start : String) : SearchConfig :=
  { config with artifactPrefix := start }

/-! ## File names -/

/-- The file name of the shared object of a module. -/
def artifactName (config : SearchConfig) (name : String) : String :=
  config.artifactPrefix ++ name ++ artifactSuffix

/-- The file name of the metadata document of a module. -/
def metadataName (config : SearchConfig) (name : String) : String :=
  config.artifactPrefix ++ name ++ "." ++ metadataExtension

def searched (config : SearchConfig) : String :=
  ":".intercalate (config.searchPath.map Path.display)

/-! ## Documents -/

def pathKey : String := "search_path"

def prefixKey : String := "artifact_prefix"

/-- The fields of a configuration. Either may be left out. -/
def form : Json.Pair (List String) String where
  name := "HarnessConfig"
  first := ⟨pathKey, Json.readList (Json.readString "path string"), some []⟩
  second := ⟨prefixKey, Json.readString "a string", some defaultPrefix⟩

def read : Json.Reader SearchConfig := fun text => do
  let ((dirs, start), rest) ← Json.readPair form text
  .ok (⟨dirs.map Path.ofText, start⟩, rest)

/-- The configuration as JSON text. A directory that is no text has none. -/
def json (config : SearchConfig) : Except Json.Fault String :=
  match config.searchPath.mapM Path.text? with
  | none => .error (.nowhere .pathNotText)
  | some dirs =>
    .ok (Json.objectOf
      [(pathKey, Json.arrayOf (dirs.map Json.quoted)),
        (prefixKey, Json.quoted config.artifactPrefix)])

def debug (config : SearchConfig) : String :=
  Text.record "HarnessConfig"
    [(pathKey, Text.list (config.searchPath.map Path.debug)),
      (prefixKey, Text.quote config.artifactPrefix)]

end SearchConfig

end HidRig
