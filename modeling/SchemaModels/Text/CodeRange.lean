/-!
# Ranges of code points

A character class of the Unicode standard is kept as a list of ranges. Cased alphabets often
alternate upper- and lower-case letters, so a range has a step: with step two it holds every other
code point.
-/

namespace SchemaModels.Text

/-- The code points `first`, `first + step`, `first + 2 * step`, … up to `last`. -/
structure CodeRange where
  first : Nat
  last : Nat
  step : Nat
  deriving DecidableEq

/-- Whether `n` is one of the code points of the range. -/
def CodeRange.covers (r : CodeRange) (n : Nat) : Bool :=
  r.first ≤ n && n ≤ r.last && (n - r.first) % r.step == 0

/-- Whether one of the ranges holds the character. -/
def inRanges (rs : List CodeRange) (c : Char) : Bool :=
  rs.any (·.covers c.toNat)

end SchemaModels.Text
