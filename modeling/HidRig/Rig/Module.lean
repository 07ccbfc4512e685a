import HidRig.Native.Image
import HidRig.Event
import HidRig.Search.Locate

/-! # Loaded modules

* `Hook`: the entry point of a role, or why there is none.
* `LockKey`: what tells the locks of modules apart.
* `TestModule`: a module with its entry points resolved.
* `Hook.resolve`: the hooks of a module by its metadata document, with the events of the search.
* `Hook.table`, `Hook.entryIn`: the hooks as the table that a module keeps, and a call's look into it.
-/

namespace HidRig

inductive Hook where
  /-- The symbol bound to the role, and what it stands for. -/
  | resolved (symbol : String) (entry : EntryPoint)
  | unresolved (reason : String)

/-- What tells the locks of modules apart. -/
inductive LockKey where
  | place (place : Place)
  /-- The path of a shared object that is at no known place. -/
  | path (path : Path)
deriving DecidableEq, Repr

/-- The key for a path: its place, if that is known. -/
def LockKey.ofPath (disk : Disk Image) (path : Path) : LockKey :=
  ((disk.place? path).map .place).getD (.path path)

structure ModuleId where
  number : Nat
deriving DecidableEq, Repr

structure TestModule where
  id : ModuleId
  name : String
  path : Path
  /-- The native file, whose table all modules on it share. -/
  file : FileId
  /-- The key of the lock that calls take. -/
  lock : LockKey
  probe : EntryPoint
  /-- The hooks that were found, by role. -/
  slots : List (Role × Hook)

/-- The reason for a role that a table of hooks has nothing for. -/
def Hook.neverDiscovered : String := "role was never discovered"

namespace TestModule

/-- The hook of a role. -/
def hooks (module : TestModule) (role : Role) : Hook :=
  (module.slots.lookup role).getD (.unresolved Hook.neverDiscovered)

/-- The symbol bound to a role, if it is resolved. -/
def symbol? (module : TestModule) (role : Role) : Option String :=
  match module.hooks role with
  | .resolved symbol _ => some symbol
  | .unresolved _ => none

def hasRole (module : TestModule) (role : Role) : Bool :=
  (module.symbol? role).isSome

def debug (module : TestModule) : String :=
  Text.openRecord "TestModule"
    [("name", Text.quote module.name), ("path", module.path.debug),
      ("roles", Text.list ((Role.all.filter module.hasRole).map Role.name))]

end TestModule

namespace Hook

/-- The hook of a role by the programs that a document lists. -/
def ofPrograms (image : Image) (metadata : Path) (programs : List ProgramRecord) (role : Role) :
    Hook :=
  match Binding.symbol? programs role with
  | none =>
    .unresolved ("no program section ending in `" ++ role.suffix ++ "` in " ++ metadata.display)
  | some symbol =>
    match image.symbol symbol with
    | .ok entry => .resolved symbol entry
    | .error fault =>
      .unresolved ("symbol `" ++ symbol ++ "` is not exported: " ++ fault.message)

/-- The hooks of a module, with what is reported on the way. Without a usable document no role has
one. -/
def resolve (disk : Disk Image) (image : Image) (metadata : Path) : (Role → Hook) × List Event :=
  match Document.load disk metadata with
  | .error fault => (fun _ => .unresolved fault.message, [.noMetadata fault])
  | .ok programs =>
    (ofPrograms image metadata programs, (Binding.duplicates programs).map .duplicateProgram)

/-- The hooks of a module that is opened, as a table made role by role. -/
def table (disk : Disk Image) (image : Image) (metadata : Path) : List (Role × Hook) :=
  Role.all.map fun role => (role, (resolve disk image metadata).1 role)

/-- The entry point of a role by such a table, or the fault of a call that has none. -/
def entryIn (module : String) (table : List (Role × Hook)) (role : Role) :
    Except InvocationFault EntryPoint :=
  match table.lookup role with
  | some (.resolved _ entry) => .ok entry
  | some (.unresolved reason) => .error (.unresolvedRole module role reason)
  | none => .error (.unresolvedRole module role neverDiscovered)

end Hook

end HidRig
