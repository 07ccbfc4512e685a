import HidRig.Path.Token
import HidRig.Rig.Loader

/-! # The usual system loader

The system loader that sessions run with. A name that an open object is known by stands for that
object. Another path is opened with its tokens filled in, and a bare name is searched for.

* `UsualLoader`: what stands for the tokens, and the directories that are searched for bare names.
* `UsualLoader.pathFor?`: the path that is opened for a name that is new.
* `UsualLoader.system`: the system loader.
-/

namespace HidRig

structure UsualLoader where
  /-- What stands for the tokens of a path. -/
  value : Path.Token → Path
  /-- The directories searched for bare names, each as the text to put before a name. -/
  dirs : List Path
  /-- The directories of the system, which are searched last. -/
  systemDirs : List Path

namespace UsualLoader

/-- A directory as the text to put before a name: with its tokens filled in, and with one slash at
the end. The working directory may be left empty, and then stays so. -/
def searchDir (value : Path.Token → Path) (dir : Path) : Path :=
  if dir = [] then []
  else ((dir.expand value).reverse.dropWhile (· = Path.slash)).reverse ++ [Path.slash]

/-- The directories that a search variable lists. Colons and semicolons separate them. -/
def dirsOf (value : Path.Token → Path) (search : Bytes) : List Path :=
  if search = [] then []
  else (search.splitBy fun b => b = 58 || b = 59).map (searchDir value)

/-- What stands for the tokens, as a program of the system sees it. -/
def tokenValue : Path.Token → Path
  | .origin => Path.ofText "/usr/bin"
  | .platform => Path.ofText "x86_64"
  | .library => Path.ofText "lib/x86_64-linux-gnu"

/-- The loader by the value of its search variable. -/
def ofVariable (search : Option Bytes) : UsualLoader where
  value := tokenValue
  dirs := (search.map (dirsOf tokenValue)).getD []
  systemDirs :=
    ["/lib/x86_64-linux-gnu/", "/usr/lib/x86_64-linux-gnu/", "/lib/", "/usr/lib/"].map Path.ofText

/-- The subdirectories for the levels of a processor, the highest first. They are searched before the
directory that they are in. -/
def levels : List Path :=
  ["glibc-hwcaps/x86-64-v4/", "glibc-hwcaps/x86-64-v3/", "glibc-hwcaps/x86-64-v2/"].map Path.ofText

/-- The path that a bare name opens: that in the first directory with anything of the name. A
directory that is seen from the working directory ends the search if more is wrong there than that
nothing is found. -/
def search (disk : Disk Image) (name : Path) : (dirs : List Path) → Option Path
  | [] => none
  | dir :: rest =>
    match (levels.map fun level => dir ++ level ++ name).find? disk.isThere with
    | some path => some path
    | none =>
      match disk.resolve (dir ++ name) with
      | .ok _ => some (dir ++ name)
      | .error fault =>
        if fault = .notFound ∨ dir.isAbsolute then search disk name rest else none

/-- The path that is opened for a name. A path with a slash is opened with its tokens filled in, and
a bare name is searched for as it is. -/
def pathFor? (usual : UsualLoader) (disk : Disk Image) (name : Path) : Option Path :=
  if name.contains Path.slash then some (name.expand usual.value)
  else (search disk name usual.dirs).or (search disk name usual.systemDirs)

def system (usual : UsualLoader) : SystemLoader where
  lead? disk objects name :=
    match objects.find? (·.names.contains name) with
    | some object => some (.known object.file)
    | none => (usual.pathFor? disk name).map .path

end UsualLoader

end HidRig
