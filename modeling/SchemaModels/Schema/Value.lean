import SchemaModels.Json.Decode

/-!
# Introspected values

A value that introspection reports for a column, such as its default: a truth value, a number, a
text, or any other JSON, kept as it came. An integer that does not fit 64 bits with a sign is kept
as the nearest floating-point number.
-/

namespace SchemaModels

/-- A value reported by introspection. -/
inductive Value where
  | bool (b : Bool)
  | int (n : Int)
  | float (x : Binary64)
  | text (s : String)
  /-- A null, a list or an object. -/
  | json (v : Json)
  deriving Inhabited

namespace Value

/-- The value that a JSON value stands for; each stands for one. -/
def ofJson : Json → Value
  | .bool b => bool b
  | .int n =>
    if isInt64 n then int n
    else
      match Binary64.ofInt n with
      | some x => float x
      | none => json (.int n)
  | .float x => float x
  | .str s => text s
  | v => json v

/-- Writes a value. -/
def toJson : Value → Json
  | bool b => .bool b
  | int n => .int n
  | float x => .float x
  | text s => .str s
  | json v => v

/-- The text, if it is one. -/
def asText? : Value → Option String
  | text s => some s
  | _ => none

/-- Whether the value is the JSON null. -/
def isNull : Value → Bool
  | json .null => true
  | _ => false

/-- The value as plain text: numbers as script code has them, other JSON as its text. -/
def display : Value → String
  | bool b => if b then "true" else "false"
  | int n => toString n
  | float x => Decimal.Layout.script.write x
  | text s => s
  | json v => v.compact

end Value
end SchemaModels
