/-! # Byte strings

Buffers, descriptors, reports and file contents are lists of bytes.

* `Bytes.resize`: cut or pad to a length.
* `Bytes.window`, `Bytes.overwrite`: read and replace a range.
* `Bytes.splitBy`, `Bytes.joinWith`: cut at separators and put together again.
* `Bytes.hexPairs`: the two-digit hexadecimal form of each byte.
-/

namespace HidRig

abbrev Bytes := List UInt8

namespace Bytes

/-- Cut to `n` bytes, or pad at the end with `fill` up to `n` bytes. -/
def resize (bytes : Bytes) (n : Nat) (fill : UInt8) : Bytes :=
  bytes.take n ++ List.replicate (n - bytes.length) fill

@[simp] theorem length_resize (bytes : Bytes) (n : Nat) (fill : UInt8) :
    (bytes.resize n fill).length = n := by
  simp [resize]
  omega

/-- The `n` bytes from `start`, or fewer where the string ends earlier. -/
def window (bytes : Bytes) (start n : Nat) : Bytes :=
  (bytes.drop start).take n

/-- Replace the bytes from `start` by `new`. What would fall outside the string is dropped, so the
length stays. -/
def overwrite (bytes : Bytes) (start : Nat) (new : Bytes) : Bytes :=
  let room := bytes.length - start
  bytes.take start ++ new.take room ++ bytes.drop (start + (new.take room).length)

@[simp] theorem length_overwrite (bytes : Bytes) (start : Nat) (new : Bytes) :
    (bytes.overwrite start new).length = bytes.length := by
  simp [overwrite]
  omega

/-! ## Separators -/

/-- The pieces between separators. There is one more piece than separators, and it may be empty. -/
def splitBy (isSeparator : UInt8 → Bool) : Bytes → List Bytes
  | [] => [[]]
  | b :: rest =>
    if isSeparator b then [] :: splitBy isSeparator rest
    else
      match splitBy isSeparator rest with
      | [] => [[b]]
      | piece :: pieces => (b :: piece) :: pieces

/-- The pieces with a separator between any two. -/
def joinWith (separator : UInt8) : List Bytes → Bytes
  | [] => []
  | [piece] => piece
  | piece :: pieces => piece ++ separator :: joinWith separator pieces

theorem splitBy_ne_nil (isSeparator : UInt8 → Bool) (bytes : Bytes) :
    splitBy isSeparator bytes ≠ [] := by
  cases bytes with
  | nil => simp [splitBy]
  | cons b rest =>
    simp only [splitBy]
    split
    · simp
    · split <;> simp

/-! ## Hexadecimal digits -/

/-- The lower-case hexadecimal digit of a number below sixteen. -/
def hexDigit (n : Nat) : Char :=
  if n < 10 then Char.ofNat (48 + n) else Char.ofNat (87 + n)

/-- The upper-case hexadecimal digit of a number below sixteen. -/
def hexDigitUpper (n : Nat) : Char :=
  if n < 10 then Char.ofNat (48 + n) else Char.ofNat (55 + n)

/-- The two lower-case hexadecimal digits of each byte. -/
def hexPairs (bytes : Bytes) : List String :=
  bytes.map fun b => String.ofList [hexDigit (b.toNat / 16), hexDigit (b.toNat % 16)]

/-- The lower-case hexadecimal digits of a number, without leading zeros. -/
def hexNumber (n : Nat) : String :=
  String.ofList (Nat.toDigits 16 n)

end Bytes

end HidRig
