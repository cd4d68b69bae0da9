/-!
# Ranges of integers

The ranges of fixed width that integers of a document may have to lie in.
-/

namespace SchemaModels

/-- The greatest integer of 64 bits without a sign, `2 ^ 64 - 1`. -/
def maxUInt64 : Nat := 18446744073709551615

/-- The greatest integer of 32 bits without a sign, `2 ^ 32 - 1`. -/
def maxUInt32 : Nat := 4294967295

/-- The least integer of 64 bits with a sign, `-2 ^ 63`. -/
def minInt64 : Int := -9223372036854775808

/-- The greatest integer of 64 bits with a sign, `2 ^ 63 - 1`. -/
def maxInt64 : Int := 9223372036854775807

/-- Whether an integer fits 64 bits with a sign. -/
def isInt64 (n : Int) : Bool :=
  minInt64 ≤ n && n ≤ maxInt64

end SchemaModels
