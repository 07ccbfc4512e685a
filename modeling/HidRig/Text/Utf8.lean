import HidRig.Bytes

/-! # UTF-8

Decoding of arbitrary bytes, and encoding of text.

* `Utf8.Chunk`: a decoded character, or bytes that belong to no character.
* `Utf8.chunks`: a byte string as chunks. A broken sequence ends before the first byte that cannot
  continue it, so each broken chunk is the longest start of some character.
* `Utf8.text?`: strict decoding; `Utf8.display`: one U+FFFD for each broken chunk.
* `Utf8.encode`: the bytes of a text.
-/

namespace HidRig.Utf8

inductive Chunk where
  | char (c : Char)
  | broken (bytes : Bytes)
deriving DecidableEq, Repr

/-- A character of which some bytes have been read. -/
structure Partial where
  seen : Bytes
  bits : Nat
  /-- How many bytes are still to come, less one. -/
  more : Nat
  lo : UInt8
  hi : UInt8
deriving DecidableEq, Repr

/-- What the first byte of a character says: which bytes may follow it and how many. The narrower
ranges after `e0`, `ed`, `f0` and `f4` keep out overlong forms, surrogates and what lies beyond
U+10FFFF. -/
def start (b : UInt8) : Chunk ⊕ Partial :=
  let n := b.toNat
  if n < 0x80 then .inl (.char (Char.ofNat n))
  else if n < 0xc2 then .inl (.broken [b])
  else if n < 0xe0 then .inr ⟨[b], n - 0xc0, 0, 0x80, 0xbf⟩
  else if n = 0xe0 then .inr ⟨[b], 0, 1, 0xa0, 0xbf⟩
  else if n = 0xed then .inr ⟨[b], 0xd, 1, 0x80, 0x9f⟩
  else if n < 0xf0 then .inr ⟨[b], n - 0xe0, 1, 0x80, 0xbf⟩
  else if n = 0xf0 then .inr ⟨[b], 0, 2, 0x90, 0xbf⟩
  else if n < 0xf4 then .inr ⟨[b], n - 0xf0, 2, 0x80, 0xbf⟩
  else if n = 0xf4 then .inr ⟨[b], 4, 2, 0x80, 0x8f⟩
  else .inl (.broken [b])

/-- The chunks that end at byte `b`, and the character that is still open after it. -/
def feed (state : Option Partial) (b : UInt8) : List Chunk × Option Partial :=
  let fresh (before : List Chunk) : List Chunk × Option Partial :=
    match start b with
    | .inl chunk => (before ++ [chunk], none)
    | .inr p => (before, some p)
  match state with
  | none => fresh []
  | some p =>
    if p.lo ≤ b ∧ b ≤ p.hi then
      let bits := p.bits * 64 + (b.toNat - 0x80)
      match p.more with
      | 0 => ([.char (Char.ofNat bits)], none)
      | more + 1 => ([], some ⟨p.seen ++ [b], bits, more, 0x80, 0xbf⟩)
    else fresh [.broken p.seen]

/-- The chunks of the remaining bytes, with a character perhaps open. -/
def chunksFrom : Option Partial → Bytes → List Chunk
  | none, [] => []
  | some p, [] => [.broken p.seen]
  | state, b :: rest => (feed state b).1 ++ chunksFrom (feed state b).2 rest

/-- A byte string as characters and broken pieces. -/
def chunks (bytes : Bytes) : List Chunk :=
  chunksFrom none bytes

/-- The character of a chunk, if it is one. -/
def Chunk.char? : Chunk → Option Char
  | .char c => some c
  | .broken _ => none

/-- The text of a byte string that is valid UTF-8. -/
def text? (bytes : Bytes) : Option String :=
  ((chunks bytes).mapM Chunk.char?).map String.ofList

/-- A byte string as text, with U+FFFD in place of each broken piece. -/
def display (bytes : Bytes) : String :=
  String.ofList ((chunks bytes).map fun chunk => chunk.char?.getD '\ufffd')

def encode (text : String) : Bytes :=
  text.toList.flatMap String.utf8EncodeChar

/-- How many bytes a list of characters takes. -/
def size (text : List Char) : Nat :=
  text.foldr (fun c n => c.utf8Size + n) 0

end HidRig.Utf8
