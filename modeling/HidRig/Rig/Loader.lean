import HidRig.Rig.Module

/-! # Opening shared objects

* `OpenObject`: an open file, with the names under which it is known.
* `SystemLoader`: the dynamic loader of a system, as what it takes for a name.
* `Loader`: a system loader with the open objects, and how many modules were opened.
* `Loader.openObject`: the native file that a path or bare name opens.
* `TestModule.open`: a module by name, in steps that each have a fault of their own.
-/

namespace HidRig

structure OpenObject where
  /-- The names that it is known by: the path that was opened, then all names asked for. -/
  names : List Path
  file : FileId
  image : Image

namespace OpenObject

/-- The object, known by one more name if it is that of a file. -/
def alsoNamed (object : OpenObject) (file : FileId) (name : Path) : OpenObject :=
  if object.file = file ∧ name ∉ object.names then { object with names := object.names ++ [name] }
  else object

end OpenObject

/-- What a system loader takes for a name. -/
inductive Lead where
  /-- The object of a file that is open. -/
  | known (file : FileId)
  /-- What is at a path. -/
  | path (path : Path)
deriving DecidableEq, Repr

/-- The dynamic loader of a system: what it takes for a name on a disk, beside the objects that are
open. It is no part of the rig, which knows of it only that a file is mapped once. -/
structure SystemLoader where
  lead? : Disk Image → List OpenObject → Path → Option Lead

structure Loader where
  system : SystemLoader
  /-- The open objects, in the order in which they were opened. -/
  objects : List OpenObject
  opened : Nat

inductive OpenFault where
  | refused
  | nullInside
deriving DecidableEq, Repr

def OpenFault.message : OpenFault → String
  | refused => "dlopen failed"
  | nullInside => "interior zero element in parameter"

namespace Loader

def initial (system : SystemLoader) : Loader := ⟨system, [], 0⟩

def native? (disk : Disk Image) (path : Path) : Option (FileId × Image) :=
  match disk.file? path with
  | some (id, .native image) => some (id, image)
  | _ => none

/-- The object of a file, if it is open. -/
def objectOf? (loader : Loader) (file : FileId) : Option OpenObject :=
  loader.objects.find? (·.file = file)

/-- The loader with one more name for the object of a file. -/
def alsoNamed (loader : Loader) (file : FileId) (name : Path) : Loader :=
  { loader with objects := loader.objects.map (·.alsoNamed file name) }

/-- Opens the object with a name: what the system loader takes for it. A file is mapped once, so that
what leads to the file of an open object stands for that object, and is one more name of it. -/
def openObject (loader : Loader) (disk : Disk Image) (name : Path) :
    Except OpenFault (OpenObject × Loader) :=
  if name.hasNull then .error .nullInside
  else
    match loader.system.lead? disk loader.objects name with
    | none => .error .refused
    | some (.known file) =>
      match loader.objectOf? file with
      | none => .error .refused
      | some object => .ok (object, loader.alsoNamed file name)
    | some (.path path) =>
      match native? disk path with
      | none => .error .refused
      | some (file, image) =>
        match loader.objectOf? file with
        | some object => .ok (object, loader.alsoNamed file name)
        | none =>
          let object := ⟨[path, name], file, image⟩
          .ok (object, { loader with objects := loader.objects ++ [object] })

end Loader

/-- Opens the module with a name: finds its files, opens the object, looks up the symbols that every
module exports, and resolves its hooks. -/
def TestModule.open (config : SearchConfig) (disk : Disk Image) (loader : Loader) (name : String) :
    Except LoadFault (TestModule × List Event × Loader) := do
  let location ← config.locate disk name
  let artifact := location.library.display
  let (object, loader) ← (loader.openObject disk location.library).mapError fun fault =>
    .libraryLoadFailed artifact fault.message
  let required (symbol : String) : Except LoadFault EntryPoint :=
    (object.image.symbol symbol).mapError fun fault => .missingSymbol artifact symbol fault.message
  let probe ← required Abi.probeSymbol
  let _ ← required Abi.setCallbacksSymbol
  let (_, events) := Hook.resolve disk object.image location.metadata
  let module : TestModule :=
    { id := ⟨loader.opened⟩, name, path := location.library, file := object.file,
      lock := .ofPath disk location.library, probe,
      slots := Hook.table disk object.image location.metadata }
  .ok (module, events, { loader with opened := loader.opened + 1 })

end HidRig
