import SchemaModels.Decimal.Shortest

/-!
# Writing numbers

How the shortest decimal of a number is laid out: with all its places, or with an exponent. Script
text always has all places and writes an integer as an integer; JSON text changes to an exponent
outside a band of magnitudes and keeps a point in every number.
-/

namespace SchemaModels.Decimal

/-- The decisions of one way of writing numbers. -/
structure Layout where
  /-- The exponents of the first digit, from the first up to and without the second, for which all
  places are written; all exponents if none. -/
  positional : Option (Int × Int)
  /-- Whether an integer written with all its places ends in `.0`. -/
  keepsPoint : Bool
  deriving DecidableEq

/-- Numbers in generated script code have all their places and no point unless they need one. -/
def Layout.script : Layout := ⟨none, false⟩

/-- Numbers in JSON text have all their places from `0.00001` up to below `1e+16`, and then a
point; all others have an exponent with its sign. -/
def Layout.json : Layout := ⟨some (-5, 16), true⟩

/-- All places of the decimal, with `.0` after an integer if asked. -/
def writePlaces (keepsPoint : Bool) (d : Digits) : List Char :=
  if d.exponent < 0 then
    '0' :: '.' :: (List.replicate ((-d.exponent).toNat - 1) '0' ++ d.digits)
  else
    let count := d.exponent.toNat + 1
    if d.digits.length ≤ count then
      d.digits ++ List.replicate (count - d.digits.length) '0'
        ++ (if keepsPoint then ['.', '0'] else [])
    else d.digits.take count ++ '.' :: d.digits.drop count

/-- One digit before the point, the others after it, and the exponent with its sign. -/
def writeScientific (d : Digits) : List Char :=
  let mantissa :=
    match d.digits with
    | first :: second :: rest => first :: '.' :: second :: rest
    | digits => digits
  let sign := if d.exponent < 0 then '-' else '+'
  mantissa ++ 'e' :: sign :: Nat.toDigits 10 d.exponent.natAbs

/-- Whether numbers with this exponent of the first digit are written with all places. -/
def Layout.isPositional (layout : Layout) (exponent : Int) : Bool :=
  match layout.positional with
  | none => true
  | some (low, high) => low ≤ exponent && exponent < high

/-- The text of a number. Zero keeps its sign. -/
def Layout.write (layout : Layout) (x : Binary64) : String :=
  let d := if x.mantissa = 0 then ⟨['0'], 0⟩ else shortest x
  let body :=
    if layout.isPositional d.exponent then writePlaces layout.keepsPoint d else writeScientific d
  String.ofList (if x.negative then '-' :: body else body)

end SchemaModels.Decimal
