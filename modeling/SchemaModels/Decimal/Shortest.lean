import SchemaModels.Decimal.Binary64

/-!
# The shortest decimal that reads back

Of the decimals that round to a given number, the one with the fewest digits, and of those the one
nearest to the number. The decimals that round to `m * 2 ^ e` lie between the midpoints to its two
neighbours, the midpoints included when `m` is even. For one digit, two digits, and so on, only
the two points of the decimal grid next to the number need a test: if any point of the grid lies
between the midpoints, one of these two does.
-/

namespace SchemaModels.Decimal

/-- A positive decimal: its digits without trailing zeros, and the power of ten of the first one.
-/
structure Digits where
  digits : List Char
  exponent : Int
  deriving DecidableEq

/-- A positive number and the two midpoints around it, in quarters of the unit in the last place:
the values are `low`, `value` and `high` times `2 ^ exponent`. -/
structure Interval where
  low : Nat
  value : Nat
  high : Nat
  exponent : Int
  closed : Bool
  deriving DecidableEq

/-- The interval around `x`. The neighbour below a power of two is half as far away as the one
above. -/
def Interval.around (x : Binary64) : Interval :=
  let m := x.mantissa
  let lowGap := if m = Nat.pow 2 52 ∧ Binary64.minExponent < x.exponent then 1 else 2
  { low := 4 * m - lowGap
    value := 4 * m
    high := 4 * m + 2
    exponent := x.exponent - 2
    closed := m % 2 == 0 }

/-- Factors `(a, b)` such that `x * 2 ^ e` compares with `d * 10 ^ j` as `x * a` with `d * b`. -/
def factors (e j : Int) : Nat × Nat :=
  (Nat.pow 2 e.toNat * Nat.pow 10 (-j).toNat, Nat.pow 10 j.toNat * Nat.pow 2 (-e).toNat)

/-- Whether `d * 10 ^ j` lies in the interval. -/
def Interval.holds (i : Interval) (j : Int) (d : Nat) : Bool :=
  let (a, b) := factors i.exponent j
  if i.closed then i.low * a ≤ d * b && d * b ≤ i.high * a
  else i.low * a < d * b && d * b < i.high * a

/-- The multiple of `10 ^ j` in the interval that is nearest to the number, if there is one. -/
def Interval.nearest? (i : Interval) (j : Int) : Option Nat :=
  let (a, b) := factors i.exponent j
  let below := i.value * a / b
  let above := below + 1
  match i.holds j below, i.holds j above with
  | false, false => none
  | true, false => some below
  | false, true => some above
  | true, true =>
    let twice := 2 * (i.value * a % b)
    if twice < b || (twice == b && below % 2 == 0) then some below else some above

/-- The power of ten of the first digit of `value * 2 ^ exponent`. The factor `10 ^ 340` brings
every number of the format above one. -/
def Interval.leadingExponent (i : Interval) : Int :=
  let (a, b) := factors i.exponent (-340)
  ((Nat.toDigits 10 (i.value * a / b)).length : Int) - 341

/-- The characters without the zeros at the end. -/
def dropTrailingZeros (cs : List Char) : List Char :=
  (cs.reverse.dropWhile (· == '0')).reverse

/-- Seventeen digits always suffice to tell a number from its neighbours. -/
def maxDigits : Nat := 17

/-- The shortest decimal that rounds to `x ≠ 0`, without its sign. -/
def shortest (x : Binary64) : Digits :=
  let i := Interval.around x
  let k := i.leadingExponent
  let found := (List.range maxDigits).findSome? fun (n : Nat) =>
    (i.nearest? (k - n)).map fun d => (d, k - n)
  match found with
  | none => ⟨['0'], 0⟩
  | some (d, j) =>
    let cs := Nat.toDigits 10 d
    ⟨dropTrailingZeros cs, j + cs.length - 1⟩

end SchemaModels.Decimal
