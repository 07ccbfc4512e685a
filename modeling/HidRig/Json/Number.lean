import HidRig.Json.Fault
import HidRig.Decimal.Shortest

/-! # JSON numbers

* `Json.Number`: whole numbers of 64 bits, and binary floating point numbers for all others.
* `Json.readNumber`: reads digits, fraction and exponent. Digits that would carry the significand
  past 64 bits are dropped, and the value is the significand, rounded, times or over a power of ten,
  rounded again.
* `Json.skipNumber`: passes over a number without its value.
-/

namespace HidRig.Json

open Decimal (Binary64)

inductive Number where
  /-- A whole number from 0 to `2 ^ 64 - 1`. -/
  | natural (n : Nat)
  /-- A whole number from `- 2 ^ 63` to -1. -/
  | negative (n : Int)
  /-- A floating point number by sign and magnitude. -/
  | real (minus : Bool) (magnitude : Binary64)
deriving DecidableEq, Repr

def Number.found : Number → Found
  | natural n => .integer n
  | negative n => .integer n
  | real minus x => .real ((if minus then "-" else "") ++ x.text)

def maxNatural : Nat := 0xffffffffffffffff

/-- The magnitude of the least whole number of 64 bits with a sign. -/
def maxNegative : Nat := 0x8000000000000000

def maxExponent : Nat := 0x7fffffff

def digitValue (c : Char) : Nat := c.toNat - 48

def digits (text : Input) : List Char × Input :=
  (text.takeWhile Char.isDigit, text.dropWhile Char.isDigit)

/-- Appends digits to a number up to the first that would carry it past `limit`, and says how many
are left over. -/
def absorb (limit : Nat) : Nat → List Char → Nat × Nat
  | n, [] => (n, 0)
  | n, d :: ds =>
    let m := n * 10 + digitValue d
    if m ≤ limit then absorb limit m ds else (n, ds.length + 1)

/-- `x · 10 ^ exponent`, in steps that stay in the range of the powers of ten; `none` when it is
too large. -/
def scaleByTen (x : Binary64) (exponent : Int) : Option Binary64 :=
  if 0 ≤ exponent then
    if 308 < exponent then (if x.isZero then some x else none)
    else (Binary64.powerOfTen? exponent.toNat).bind x.mul?
  else down x (-exponent).toNat 4
where
  /-- `x / 10 ^ n`. Four steps of 308 bring every number to zero. -/
  down (x : Binary64) (n : Nat) : Nat → Option Binary64
    | 0 => some .zero
    | steps + 1 =>
      if n ≤ 308 then (Binary64.powerOfTen? n).bind x.div?
      else if x.isZero then some x
      else ((Binary64.powerOfTen? 308).bind x.div?).bind fun y => down y (n - 308) steps

/-- The number with a significand and a power of ten. -/
def realNumber (minus : Bool) (significand : Nat) (exponent : Int) (rest : Input) :
    Except Failure (Number × Input) :=
  match (Binary64.ofRatio? significand 1).bind fun x => scaleByTen x exponent with
  | some x => .ok (.real minus x, rest)
  | none => .error (.here .numberTooLarge rest)

/-- The digits before the point: a single zero, or digits that start with another. -/
def wholeDigits : Input → Except Failure (List Char × Input)
  | [] => .error (.at .endInValue 0)
  | c :: rest =>
    if c = '0' then
      if rest.head?.any Char.isDigit then .error (.past .badNumber rest) else .ok ([c], rest)
    else if c.isDigit then .ok (digits (c :: rest))
    else .error (.past .badNumber (c :: rest))

/-- The digits after the point: at least one. -/
def fractionDigits (text : Input) : Except Failure (List Char × Input) :=
  match digits text with
  | ([], []) => .error (.at .endInValue 0)
  | ([], rest) => .error (.past .badNumber rest)
  | (ds, rest) => .ok (ds, rest)

def exponentSign : Input → Bool × Input
  | '+' :: rest => (false, rest)
  | '-' :: rest => (true, rest)
  | rest => (false, rest)

/-- Reads the exponent after its letter, for a number with the given significand. An exponent past
31 bits makes zero, or is too large at its first digit that does not fit. -/
def readExponent (minus : Bool) (significand : Nat) (shift : Int) (text : Input) :
    Except Failure (Number × Input) :=
  let (down, rest) := exponentSign text
  match digits rest with
  | ([], []) => .error (.at .endInValue 0)
  | ([], rest) => .error (.past .badNumber rest)
  | (ds, rest) =>
    let (n, excess) := absorb maxExponent 0 ds
    if excess = 0 then realNumber minus significand (if down then shift - n else shift + n) rest
    else if significand ≠ 0 ∧ !down then
      .error (.at .numberTooLarge (Utf8.size rest + (excess - 1)))
    else .ok (.real minus .zero, rest)

def readTail (minus : Bool) (significand : Nat) (shift : Int) : Input →
    Except Failure (Number × Input)
  | 'e' :: rest | 'E' :: rest => readExponent minus significand shift rest
  | rest => realNumber minus significand shift rest

/-- The number of a significand without fraction and exponent. Minus zero is no whole number. -/
def wholeNumber (minus : Bool) (n : Nat) : Number :=
  if !minus then .natural n
  else if n = 0 ∨ maxNegative < n then
    .real true ((Binary64.ofRatio? n 1).getD .zero)
  else .negative (-n)

def readNumber (minus : Bool) (text : Input) : Except Failure (Number × Input) := do
  let (whole, rest) ← wholeDigits text
  let (significand, excess) := absorb maxNatural 0 whole
  match rest with
  | '.' :: rest =>
    let (fraction, rest) ← fractionDigits rest
    let (significand, dropped) := absorb maxNatural significand fraction
    readTail minus significand ((excess : Int) - (fraction.length - dropped)) rest
  | 'e' :: rest | 'E' :: rest => readExponent minus significand excess rest
  | rest =>
    if excess = 0 then .ok (wholeNumber minus significand, rest)
    else realNumber minus significand excess rest

/-! ## Passing over a number -/

/-- Passes over an exponent after its letter. -/
def skipExponent (text : Input) : Except Failure Input :=
  match digits (exponentSign text).2 with
  | ([], rest) => .error (.past .badNumber rest)
  | (_, rest) => .ok rest

/-- Passes over what may follow the fraction. -/
def skipTail : Input → Except Failure Input
  | 'e' :: rest | 'E' :: rest => skipExponent rest
  | rest => .ok rest

def skipNumber : Input → Except Failure Input
  | [] => .error (.at .badNumber 0)
  | c :: rest =>
    if c = '0' ∧ rest.head?.any Char.isDigit then .error (.past .badNumber rest)
    else if !c.isDigit then .error (.past .badNumber (c :: rest))
    else
      match (if c = '0' then rest else (digits rest).2) with
      | '.' :: rest =>
        match digits rest with
        | ([], rest) => .error (.past .badNumber rest)
        | (_, rest) => skipTail rest
      | rest => skipTail rest

end HidRig.Json
