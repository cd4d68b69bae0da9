import SchemaModels.Json.Decode
import SchemaModels.OrderedMap

/-!
# Model options

The options that every generated model receives beside those of its own. A few have a meaning for
the generator; the others are passed on in the order in which they were first set.
-/

namespace SchemaModels

/-- The value of a model option. -/
inductive OptionValue where
  | bool (b : Bool)
  | int (n : Int)
  | text (s : String)
  deriving DecidableEq, Inhabited

namespace OptionValue

/-- The truth value, if it is one. -/
def asBool? : OptionValue → Option Bool
  | bool b => some b
  | _ => none

/-- The text, if it is one. -/
def asText? : OptionValue → Option String
  | text s => some s
  | _ => none

/-- The value as plain text. -/
def display : OptionValue → String
  | bool b => if b then "true" else "false"
  | int n => toString n
  | text s => s

/-- Reads a truth value, an integer of 64 bits or a text. -/
def decode : Decoder OptionValue
  | .bool b => .ok (bool b)
  | .int n => if isInt64 n then .ok (int n) else .error (.noAlternative "OptionValue")
  | .str s => .ok (text s)
  | _ => .error (.noAlternative "OptionValue")

/-- Writes an option value. -/
def toJson : OptionValue → Json
  | bool b => .bool b
  | int n => .int n
  | text s => .str s

end OptionValue

/-- The options of every generated model, by name. -/
abbrev ModelOptions := OrderedMap OptionValue

namespace ModelOptions

/-- Whether timestamps are explicitly on or off. -/
def timestamps? (o : ModelOptions) : Option Bool :=
  (o.get? "timestamps").bind OptionValue.asBool?

/-- Whether soft deletion is explicitly on or off. -/
def paranoid? (o : ModelOptions) : Option Bool :=
  (o.get? "paranoid").bind OptionValue.asBool?

/-- The column that takes the place of `createdAt`. -/
def createdAt? (o : ModelOptions) : Option String :=
  (o.get? "createdAt").bind OptionValue.asText?

/-- The column that takes the place of `updatedAt`. -/
def updatedAt? (o : ModelOptions) : Option String :=
  (o.get? "updatedAt").bind OptionValue.asText?

/-- The column that takes the place of `deletedAt`. -/
def deletedAt? (o : ModelOptions) : Option String :=
  (o.get? "deletedAt").bind OptionValue.asText?

/-- Whether models are to fix their singular and plural names: `name` is set, and not to false. -/
def fixesNames (o : ModelOptions) : Bool :=
  match o.get? "name" with
  | none => false
  | some v => v ≠ .bool false

/-- Reads the options. -/
def decode : Decoder ModelOptions := fun v =>
  (Decoder.members OptionValue.decode v).map OrderedMap.ofList

/-- Writes the options in their order. -/
def toJson (o : ModelOptions) : Json :=
  .obj (o.entries.map fun e => (e.1, e.2.toJson))

end ModelOptions
end SchemaModels
