/-! # Binary floating point magnitudes

Exact arithmetic on the non-negative numbers of the 64-bit binary format: 53 bits of precision and
exponents from -1074 to 971.

* `Binary64`: the number `mantissa · 2 ^ exponent`.
* `Binary64.ofRatio?`: the nearest number to a quotient, ties to even, `none` past the largest.
* `Binary64.mul?`, `Binary64.div?`: product and quotient, rounded once.
-/

namespace HidRig.Decimal

/-- The number `mantissa · 2 ^ exponent`. -/
structure Binary64 where
  mantissa : Nat
  /-- The power of two, between -1074 and 971. -/
  exponent : Int
deriving DecidableEq, Repr

namespace Binary64

def zero : Binary64 := ⟨0, -1074⟩

def mantissaStart : Nat := 0x10000000000000

/-- The least mantissa of more than 53 bits. -/
def mantissaEnd : Nat := 0x20000000000000

def isZero (x : Binary64) : Bool := x.mantissa = 0

/-- The fraction `num / den` times `2 ^ e`, as a fraction. -/
def scale (num den : Nat) (e : Int) : Nat × Nat :=
  if 0 ≤ e then (num * Nat.pow 2 e.toNat, den) else (num, den * Nat.pow 2 (-e).toNat)

/-- The quotient rounded to a whole number, a half to the even neighbour. -/
def roundDiv (num den : Nat) : Nat :=
  let q := num / den
  let r := num % den
  if den < 2 * r ∨ (2 * r = den ∧ q % 2 = 1) then q + 1 else q

/-- The exponent that leaves 53 bits of the quotient before the point, or the least exponent. -/
def exponentFor (num den : Nat) : Int :=
  let e : Int := (num.log2 : Int) - den.log2 - 53
  let f := scale num den (-e)
  max (-1074) (if f.2 * mantissaEnd ≤ f.1 then e + 1 else e)

/-- The number nearest to `num / den`, unless it is too large. -/
def ofRatio? (num den : Nat) : Option Binary64 :=
  if num = 0 then some zero
  else
    let e := exponentFor num den
    let f := scale num den (-e)
    let m := roundDiv f.1 f.2
    let x : Binary64 := if m = mantissaEnd then ⟨mantissaStart, e + 1⟩ else ⟨m, e⟩
    if 971 < x.exponent then none else some x

def ratio (x : Binary64) : Nat × Nat :=
  scale x.mantissa 1 x.exponent

def mul? (x y : Binary64) : Option Binary64 :=
  ofRatio? (x.ratio.1 * y.ratio.1) (x.ratio.2 * y.ratio.2)

/-- The quotient by a number that is not zero, rounded once. -/
def div? (x y : Binary64) : Option Binary64 :=
  ofRatio? (x.ratio.1 * y.ratio.2) (x.ratio.2 * y.ratio.1)

def powerOfTen? (n : Nat) : Option Binary64 :=
  ofRatio? (Nat.pow 10 n) 1

end Binary64

end HidRig.Decimal
