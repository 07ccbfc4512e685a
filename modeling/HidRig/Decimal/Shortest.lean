import HidRig.Decimal.Binary64

/-! # Shortest decimal text

The fewest decimal digits that read back as a given binary number, the nearest such if there are
several, and their notation.

* `Binary64.digits`: the digits, as a whole number and a power of ten.
* `Binary64.text`: positional notation with a point for decimal exponents from -5 to 15, scientific
  notation with a signed exponent otherwise.
-/

namespace HidRig.Decimal

/-- The number `digits · 10 ^ exponent`. -/
structure Numeral where
  digits : Nat
  exponent : Int
deriving DecidableEq, Repr

def digitCount (n : Nat) : Nat :=
  (Nat.toDigits 10 n).length

/-- The exponent of the leading decimal digit of a positive fraction. -/
def leadingExponent (num den : Nat) : Int :=
  if den ≤ num then (digitCount (num / den) : Int) - 1
  else -(digitCount ((den + num - 1) / num - 1) : Int)

namespace Binary64

/-- The interval of numbers that round to `x`, in quarters of its last place: lower end, the number
and upper end. Below a power of two the numbers lie twice as dense. -/
def quarters (x : Binary64) : Nat × Nat × Nat :=
  let narrow := x.mantissa = mantissaStart ∧ -1074 < x.exponent
  (4 * x.mantissa - (if narrow then 1 else 2), 4 * x.mantissa, 4 * x.mantissa + 2)

/-- The nearest number with `n` decimal digits, if one rounds to `x`. -/
def withDigits? (x : Binary64) (n : Nat) : Option Numeral :=
  let (low, mid, high) := x.quarters
  let unit := scale 1 1 (x.exponent - 2)
  let grid := leadingExponent (mid * unit.1) unit.2 - (n : Int) + 1
  let up := unit.1 * Nat.pow 10 (-grid).toNat
  let down := unit.2 * Nat.pow 10 grid.toNat
  let inside (c : Nat) : Bool :=
    if x.mantissa % 2 = 0 then low * up ≤ c * down && c * down ≤ high * up
    else low * up < c * down && c * down < high * up
  let c := mid * up / down
  let rest := mid * up % down
  match inside c, inside (c + 1) with
  | true, true =>
    if down < 2 * rest ∨ (2 * rest = down ∧ c % 2 = 1) then some ⟨c + 1, grid⟩ else some ⟨c, grid⟩
  | true, false => some ⟨c, grid⟩
  | false, true => some ⟨c + 1, grid⟩
  | false, false => none

/-- The fewest digits that read back as a number other than zero. Seventeen always do. -/
def digits (x : Binary64) : Numeral :=
  ((List.range' 1 17).findSome? x.withDigits?).getD ⟨x.ratio.1 / x.ratio.2, 0⟩

def trimZeros : Nat → List Char → List Char
  | 0, ds => ds
  | n + 1, ds => if ds.getLast? = some '0' then trimZeros n ds.dropLast else ds

/-- The decimal text of a number: at least one digit on each side of a point, or a mantissa and a
signed exponent. -/
def text (x : Binary64) : String :=
  if x.isZero then "0.0"
  else
    let numeral := x.digits
    let all := Nat.toDigits 10 numeral.digits
    let ds := trimZeros all.length all
    let point : Int := numeral.exponent + all.length
    let out : List Char :=
      if -5 < point ∧ point ≤ 0 then
        ['0', '.'] ++ List.replicate (-point).toNat '0' ++ ds
      else if 0 < point ∧ point ≤ 16 then
        let n := point.toNat
        if ds.length ≤ n then ds ++ List.replicate (n - ds.length) '0' ++ ['.', '0']
        else ds.take n ++ ['.'] ++ ds.drop n
      else
        let e := point - 1
        let sign := if e < 0 then '-' else '+'
        ds.take 1 ++ (if ds.length ≤ 1 then [] else '.' :: ds.drop 1) ++ ['e', sign]
          ++ Nat.toDigits 10 e.natAbs
    String.ofList out

end Binary64

end HidRig.Decimal
