import HidRig.Text.Quoted

/-! # Paths

A path is a byte string with slashes between its parts.

* `Path.join`: a path followed from another.
* `Path.parent?`: the path without its last part.
* `Path.display`, `Path.debug`, `Path.text?`: the path as text.
-/

namespace HidRig

abbrev Path := Bytes

namespace Path

def slash : UInt8 := 47

/-- The byte of the part that stands for the same directory. -/
def dot : UInt8 := 46

def ofText (text : String) : Path :=
  Utf8.encode text

def isAbsolute (path : Path) : Bool :=
  path.head? = some slash

/-- The path `other`, seen from `path`. An absolute path stays as it is. -/
def join (path other : Path) : Path :=
  if isAbsolute other then other
  else if path = [] ∨ path.getLast? = some slash then path ++ other
  else path ++ slash :: other

/-- The parts of a path, empty ones included. -/
def parts (path : Path) : List Bytes :=
  path.splitBy (· = slash)

/-- Whether a part stands for nothing: it is empty or a single dot. -/
def isIdle (part : Bytes) : Bool :=
  part = [] || part = [dot]

/-- The length of what comes before the first part that can be dropped: the root, or a dot at the
start of a path. -/
def anchorLength (path : Path) : Nat :=
  match path with
  | [] => 0
  | b :: rest =>
    if b = slash then 1
    else if b = dot ∧ (rest = [] ∨ rest.head? = some slash) then 1
    else 0

/-- The path without its last part and without idle parts before that. The root and the empty path
have none to drop. -/
def parent? (path : Path) : Option Path :=
  let anchor := path.take (anchorLength path)
  let body := parts (path.drop (anchorLength path))
  match body.reverse.dropWhile isIdle with
  | [] => if anchor = [dot] then some [] else none
  | _ :: earlier =>
    some (anchor ++ Bytes.joinWith slash (earlier.dropWhile isIdle).reverse)

def hasNull (path : Path) : Bool :=
  path.contains 0

def display (path : Path) : String :=
  Utf8.display path

def debug (path : Path) : String :=
  Text.quotePath path

def text? (path : Path) : Option String :=
  Utf8.text? path

end Path

end HidRig
