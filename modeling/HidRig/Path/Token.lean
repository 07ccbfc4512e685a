import HidRig.Path

/-! # Tokens in library paths

Three names in a library path that the system loader fills in. A token is written after a dollar
sign, either in braces or where no more of a name follows: `$LIB/x` and `${LIB}x` have one, while
`$LIBx` and `${LIB` are taken as they are.

* `Path.Token`: the names, and where they are written.
* `Path.expand`: a path with its tokens filled in.
-/

namespace HidRig.Path

/-- A name that the system loader fills in. -/
inductive Token where
  | origin
  | platform
  /-- The directory of system libraries, seen from the root of an installation. -/
  | library
deriving DecidableEq, Repr

namespace Token

def all : List Token := [origin, platform, library]

def name : Token → Bytes
  | origin => Utf8.encode "ORIGIN"
  | platform => Utf8.encode "PLATFORM"
  | library => Utf8.encode "LIB"

/-- Whether a byte goes on with a name: a letter, a digit or an underscore. -/
def isNameByte (b : UInt8) : Bool :=
  (48 ≤ b && b ≤ 57) || (65 ≤ b && b ≤ 90) || b = 95 || (97 ≤ b && b ≤ 122)

/-- The number of bytes that a token takes up at the start of what follows a dollar sign. -/
def length? (token : Token) (after : Bytes) : Option Nat :=
  let size := token.name.length
  match after with
  | 123 :: inner =>
    if token.name.isPrefixOf inner && (inner.drop size).head? = some 125 then some (size + 2)
    else none
  | _ =>
    if token.name.isPrefixOf after && !(after.drop size).head?.any isNameByte then some size
    else none

/-- The token at the start of what follows a dollar sign, with the number of bytes it takes up. -/
def read? (after : Bytes) : Option (Token × Nat) :=
  all.findSome? fun token => (token.length? after).map (token, ·)

end Token

/-- A path with its tokens filled in, from behind the next `skip` bytes on. -/
def expandFrom (value : Token → Path) : (skip : Nat) → Path → Path
  | _, [] => []
  | skip + 1, _ :: rest => expandFrom value skip rest
  | 0, b :: rest =>
    if b = 36 then
      match Token.read? rest with
      | some (token, length) => value token ++ expandFrom value length rest
      | none => b :: expandFrom value 0 rest
    else b :: expandFrom value 0 rest

/-- A path with its tokens filled in, by what stands for each. -/
def expand (value : Token → Path) (path : Path) : Path :=
  expandFrom value 0 path

end HidRig.Path
