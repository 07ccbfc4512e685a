import HidRig.Path

/-! # The directory tree

The files that modules and documents are read from: a tree of directories, files and symbolic
links, with the working directory as a place in it.

* `Disk.resolve`: the place that a path leads to, with links followed.
* `Disk.isFile`, `Disk.readText`, `Disk.place?`: questions about a path.
* `Disk.make`, `Disk.remove`: changes.

A file has an identity of its own, so that two paths to one file can be told from two files.
-/

namespace HidRig

structure FileId where
  number : Nat
deriving DecidableEq, Repr, Hashable

/-- What a file holds: bytes, or a native module. -/
inductive Content (Image : Type) where
  | bytes (bytes : Bytes)
  /-- A native module. Its bytes are no text. -/
  | native (image : Image)

inductive Entry (Image : Type) where
  | directory
  | file (id : FileId) (content : Content Image)
  | link (target : Path)

/-- A place in the tree, as the names that lead to it from the root, the last first. -/
abbrev Place := List Bytes

/-- A directory tree: its entries by place, the number for the next file, and the working directory.
The working directory is on the disk, and with it the directories above. -/
structure Disk (Image : Type) where
  entries : List (Place × Entry Image)
  made : Nat
  here : Place

inductive DiskFault where
  | notFound
  | notDirectory
  | isDirectory
  | tooManyLinks
  | nameTooLong
  | nullByte
  | notText
deriving DecidableEq, Repr

def DiskFault.message : DiskFault → String
  | notFound => "No such file or directory (os error 2)"
  | notDirectory => "Not a directory (os error 20)"
  | isDirectory => "Is a directory (os error 21)"
  | tooManyLinks => "Too many levels of symbolic links (os error 40)"
  | nameTooLong => "File name too long (os error 36)"
  | nullByte => "file name contained an unexpected NUL byte"
  | notText => "stream did not contain valid UTF-8"

namespace Disk

variable {Image : Type}

/-- A disk with a working directory and no more than that. -/
def emptyAt (here : Place) : Disk Image := ⟨[], 0, here⟩

def empty : Disk Image := emptyAt [Path.ofText "work"]

def entry? (disk : Disk Image) (place : Place) : Option (Entry Image) :=
  if place.isSuffixOf disk.here then some .directory else disk.entries.lookup place

inductive Target (Image : Type) where
  | directory (place : Place)
  | file (place : Place) (id : FileId) (content : Content Image)

/-- How many symbolic links a path may lead over. -/
def linkLimit : Nat := 40

def nameLimit : Nat := 255

/-- The least length of a path that is too long. -/
def pathLimit : Nat := 4096

/-- The directory where a path starts that is seen from another. -/
def startOf (path : Path) (here : Place) : Place :=
  if path.isAbsolute then [] else here

/-- Walks over parts of a path from a directory. At a link `follow` goes on, from the directory of
the link or from the root, over the parts of its target and those that are left. -/
def walkWith (disk : Disk Image)
    (follow : Place → List Bytes → Except DiskFault (Target Image)) :
    Target Image → List Bytes → Except DiskFault (Target Image)
  | there, [] => .ok there
  | .file .., _ :: _ => .error .notDirectory
  | .directory here, part :: rest =>
    if Path.isIdle part then disk.walkWith follow (.directory here) rest
    -- above the root there is the root again
    else if part = [Path.dot, Path.dot] then disk.walkWith follow (.directory here.tail) rest
    else if nameLimit < part.length then .error .nameTooLong
    else
      match disk.entry? (part :: here) with
      | none => .error .notFound
      | some .directory => disk.walkWith follow (.directory (part :: here)) rest
      | some (.file id content) => disk.walkWith follow (.file (part :: here) id content) rest
      | some (.link target) =>
        if target = [] then .error .notFound
        else follow (startOf target here) (target.parts ++ rest)

/-- Walks over parts of a path from a directory, over at most `links` links. -/
def walk (disk : Disk Image) :
    (links : Nat) → Place → List Bytes → Except DiskFault (Target Image)
  | 0, here => disk.walkWith (fun _ _ => .error .tooManyLinks) (.directory here)
  | links + 1, here => disk.walkWith (disk.walk links) (.directory here)

/-- What a path leads to: an absolute one from the root, another from the working directory. -/
def resolve (disk : Disk Image) (path : Path) : Except DiskFault (Target Image) :=
  if path.hasNull then .error .nullByte
  else if path = [] then .error .notFound
  else if pathLimit ≤ path.length then .error .nameTooLong
  else disk.walk linkLimit (startOf path disk.here) path.parts

def file? (disk : Disk Image) (path : Path) : Option (FileId × Content Image) :=
  match disk.resolve path with
  | .ok (.file _ id content) => some (id, content)
  | _ => none

def isFile (disk : Disk Image) (path : Path) : Bool :=
  (disk.file? path).isSome

/-- The text of the file that a path leads to. -/
def readText (disk : Disk Image) (path : Path) : Except DiskFault String :=
  match disk.resolve path with
  | .error fault => .error fault
  | .ok (.file _ _ (.bytes bytes)) =>
    match Utf8.text? bytes with
    | some text => .ok text
    | none => .error .notText
  | .ok (.file _ _ (.native _)) => .error .notText
  | .ok _ => .error .isDirectory

def isThere (disk : Disk Image) (path : Path) : Bool :=
  (disk.resolve path).isOk

/-- The place that a path leads to. All paths to one place have it in common. -/
def place? (disk : Disk Image) (path : Path) : Option Place :=
  match disk.resolve path with
  | .ok (.directory place) => some place
  | .ok (.file place _ _) => some place
  | .error _ => none

/-! ## Changes -/

/-- Puts an entry at a place, in place of what was there. -/
def set (disk : Disk Image) (place : Place) (entry : Entry Image) : Disk Image :=
  { disk with entries := (place, entry) :: disk.entries.filter fun e => e.1 ≠ place }

/-- Makes the directories that lead over the given names, and gives the place of the last. Links to
directories are followed, and what else stands in the way is replaced. -/
def makeDirectories (disk : Disk Image) (here : Place) : List Bytes → Disk Image × Place
  | [] => (disk, here)
  | part :: rest =>
    if Path.isIdle part then disk.makeDirectories here rest
    else if part = [Path.dot, Path.dot] then disk.makeDirectories here.tail rest
    else
      match disk.walk linkLimit here [part] with
      | .ok (.directory place) => disk.makeDirectories place rest
      | _ => (disk.set (part :: here) .directory).makeDirectories (part :: here) rest

/-- Makes a directory and those above it. -/
def makeDirectory (disk : Disk Image) (path : Path) : Disk Image :=
  (disk.makeDirectories (startOf path disk.here) path.parts).1

/-- Makes the directories above the last part of a path. Gives the directory and the last part. -/
def makeAbove (disk : Disk Image) (path : Path) : Disk Image × Option (Place × Bytes) :=
  match (path.parts.filter fun part => !Path.isIdle part).reverse with
  | [] => (disk, none)
  | name :: above =>
    let (disk, here) := disk.makeDirectories (startOf path disk.here) above.reverse
    (disk, some (here, name))

/-- The place where a file is written under a name in a directory. A link under that name is
followed, over at most `links` links, to a name that may still be free in a directory that is
there. -/
def placeToWrite? (disk : Disk Image) : (links : Nat) → Place → (name : Bytes) → Option Place
  | links, here, name =>
    match disk.entry? (name :: here), links with
    | none, _ => some (name :: here)
    | some (.file _ _), _ => some (name :: here)
    | some (.link _), 0 => none
    | some (.link target), links + 1 =>
      match target.parts.reverse with
      | [] => none
      | last :: above =>
        if Path.isIdle last || last = [Path.dot, Path.dot] then none
        else
          match disk.walk linkLimit (startOf target here) above.reverse with
          | .ok (.directory there) => disk.placeToWrite? links there last
          | _ => none
    | some .directory, _ => none

/-- Makes a file, through a link if one is there. It has an identity of its own, even in the place
of another file. -/
def makeFile (disk : Disk Image) (path : Path) (content : Content Image) : Disk Image :=
  let (disk, above) := disk.makeAbove path
  match above.bind fun (here, name) => disk.placeToWrite? linkLimit here name with
  | none => disk
  | some place =>
    { disk with made := disk.made + 1 }.set place (.file ⟨disk.made⟩ content)

/-- Makes a symbolic link. A link that is there already is replaced, not followed. -/
def makeLink (disk : Disk Image) (path : Path) (target : Path) : Disk Image :=
  match disk.makeAbove path with
  | (disk, none) => disk
  | (disk, some (here, name)) => disk.set (name :: here) (.link target)

inductive Item (Image : Type) where
  | directory
  | file (content : Content Image)
  | link (target : Path)

/-- Makes something at a path, and the directories above it. -/
def make (disk : Disk Image) (path : Path) : Item Image → Disk Image
  | .directory => disk.makeDirectory path
  | .file content => disk.makeFile path content
  | .link target => disk.makeLink path target

def makeAll (disk : Disk Image) (items : List (Path × Item Image)) : Disk Image :=
  items.foldl (fun disk item => disk.make item.1 item.2) disk

/-- Removes what stands at a path, with all below it. The last link of the path is not followed. -/
def remove (disk : Disk Image) (path : Path) : Disk Image :=
  match (path.parts.filter fun part => !Path.isIdle part).reverse with
  | [] => disk
  | name :: above =>
    match disk.walk linkLimit (startOf path disk.here) above.reverse with
    | .ok (.directory here) =>
      let place := name :: here
      { disk with entries := disk.entries.filter fun e => !(place.isSuffixOf e.1) }
    | _ => disk

end Disk

end HidRig
