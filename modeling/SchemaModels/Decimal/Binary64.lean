/-!
# Finite binary floating-point numbers

The finite numbers of the 64-bit binary format, kept as sign, significand and exponent of two. All
arithmetic is exact arithmetic on natural numbers followed by one rounding to the nearest number
of the format, a tie going to the even significand.
-/

namespace SchemaModels

/-- The number `± mantissa * 2 ^ exponent`. The functions here build it with `mantissa < 2 ^ 53`,
`-1074 ≤ exponent`, and `2 ^ 52 ≤ mantissa` unless the exponent is the least one, so that two
numbers are equal only if they have the same sign, mantissa and exponent. -/
structure Binary64 where
  negative : Bool
  mantissa : Nat
  exponent : Int
  deriving DecidableEq

namespace Binary64

/-- The least exponent of the format. -/
def minExponent : Int := -1074

/-- The greatest exponent of the format. -/
def maxExponent : Int := 971

/-- Zero with the given sign. -/
def zero (negative : Bool) : Binary64 :=
  ⟨negative, 0, minExponent⟩

/-- The quotient rounded to the nearest integer, a tie to the even one. -/
def divNearest (num den : Nat) : Nat :=
  let q := num / den
  let twice := 2 * (num % den)
  if twice < den then q
  else if den < twice then q + 1
  else q + q % 2

/-- `num / den` divided by `2 ^ e`, as a fraction. -/
def scaled (num den : Nat) (e : Int) : Nat × Nat :=
  if 0 ≤ e then (num, den * Nat.pow 2 e.toNat) else (num * Nat.pow 2 (-e).toNat, den)

/-- The exponent at which the quotient `num / den` has a significand of 53 bits, if the format
reaches down that far. -/
def exponentFor (num den : Nat) : Int :=
  let guess := max ((num.log2 : Int) - (den.log2 : Int) - 53) minExponent
  let (n, d) := scaled num den guess
  if n / d < Nat.pow 2 53 then guess else guess + 1

/-- The number of the format nearest to `± num / den`, for `den > 0`; none beyond its largest
number. -/
def ofRatio (negative : Bool) (num den : Nat) : Option Binary64 :=
  if num = 0 then some (zero negative)
  else
    let e := exponentFor num den
    let (n, d) := scaled num den e
    let m := divNearest n d
    let (m, e) := if m = Nat.pow 2 53 then (Nat.pow 2 52, e + 1) else (m, e)
    if e ≤ maxExponent then some ⟨negative, m, e⟩ else none

/-- The magnitude as a fraction. -/
def ratio (x : Binary64) : Nat × Nat :=
  if 0 ≤ x.exponent then (x.mantissa * Nat.pow 2 x.exponent.toNat, 1)
  else (x.mantissa, Nat.pow 2 (-x.exponent).toNat)

/-- The number of the format nearest to an integer; none beyond its largest number. -/
def ofInt (n : Int) : Option Binary64 :=
  ofRatio (n < 0) n.natAbs 1

/-- The product, rounded; it takes the sign of `x`. -/
def scaleUp (x y : Binary64) : Option Binary64 :=
  let (n, d) := x.ratio
  let (n', d') := y.ratio
  ofRatio x.negative (n * n') (d * d')

/-- The quotient for `y ≠ 0`, rounded; it takes the sign of `x`. -/
def scaleDown (x y : Binary64) : Option Binary64 :=
  let (n, d) := x.ratio
  let (n', d') := y.ratio
  ofRatio x.negative (n * d') (d * n')

/-- The largest power of ten within the format. -/
def maxPowerOfTen : Nat := 308

/-- The number written `± significand * 10 ^ exponent`: the significand is rounded first, then
multiplied or divided by the rounded power of ten and rounded again. A smaller power than the
format holds is reached by dividing twice. None for a number beyond the largest one. -/
def ofDecimal (negative : Bool) (significand : Nat) (exponent : Int) : Option Binary64 := do
  let s ← ofRatio negative significand 1
  let k := exponent.natAbs
  if k ≤ maxPowerOfTen then
    let p ← ofRatio false (Nat.pow 10 k) 1
    if 0 ≤ exponent then s.scaleUp p else s.scaleDown p
  else if significand = 0 then some s
  else if 0 ≤ exponent then none
  else
    let p ← ofRatio false (Nat.pow 10 maxPowerOfTen) 1
    let s ← s.scaleDown p
    if k ≤ 2 * maxPowerOfTen then
      let q ← ofRatio false (Nat.pow 10 (k - maxPowerOfTen)) 1
      s.scaleDown q
    else some (zero negative)

end Binary64
end SchemaModels
