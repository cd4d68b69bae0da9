import SchemaModels.Json.Basic
import SchemaModels.Json.IntegerRange

/-!
# Decoding JSON values

A decoder turns a JSON value into a value of the library or says what is wrong with it. A record
is read member by member in the order of the document: the first bad value is the error, and only
then the first required member that is missing.
-/

namespace SchemaModels

/-- Why a JSON value does not decode. -/
inductive DecodeError where
  /-- A required member of a record is not there. -/
  | missingField (name : String)
  /-- The value is of another kind than expected. -/
  | invalidType (found : Json) (expected : String)
  /-- The value is of the right kind but out of range. -/
  | invalidValue (found : Json) (expected : String)
  /-- A name is none of the known ones. -/
  | unknownVariant (name : String) (known : List String)
  /-- The value fits none of the alternatives of a type. -/
  | noAlternative (type : String)
  deriving Inhabited

/-- What a message calls a value: its kind, with the value itself if it is plain. -/
def Json.describe : Json → String
  | .null => "null"
  | .bool b => "boolean `" ++ (if b then "true" else "false") ++ "`"
  | .int n => "integer `" ++ toString n ++ "`"
  | .float x => "floating point `" ++ Decimal.Layout.json.write x ++ "`"
  | .str s => "string " ++ Text.shown s
  | .arr _ => "sequence"
  | .obj _ => "map"

/-- The list of known names in a message. -/
def describeKnown : List String → String
  | [a] => "`" ++ a ++ "`"
  | [a, b] => "`" ++ a ++ "` or `" ++ b ++ "`"
  | names => "one of " ++ String.intercalate ", " (names.map fun n => "`" ++ n ++ "`")

/-- The wording of an error. -/
def DecodeError.message : DecodeError → String
  | .missingField name => "missing field `" ++ name ++ "`"
  | .invalidType found expected => "invalid type: " ++ found.describe ++ ", expected " ++ expected
  | .invalidValue found expected => "invalid value: " ++ found.describe ++ ", expected " ++ expected
  | .unknownVariant name known =>
    "unknown variant `" ++ name ++ "`, expected " ++ describeKnown known
  | .noAlternative type => "data did not match any variant of untagged enum " ++ type

/-- A decoder for `α`. -/
abbrev Decoder (α : Type) := Json → Except DecodeError α

namespace Decoder

/-- A text. -/
def text : Decoder String
  | .str s => .ok s
  | v => .error (.invalidType v "a string")

/-- A truth value. -/
def bool : Decoder Bool
  | .bool b => .ok b
  | v => .error (.invalidType v "a boolean")

/-- A natural number up to `max`; messages call its range `name`. -/
def natUpTo (max : Nat) (name : String) : Decoder Nat
  | .int n =>
    if 0 ≤ n ∧ n ≤ (max : Int) then .ok n.toNat else .error (.invalidValue (.int n) name)
  | v => .error (.invalidType v name)

/-- An optional value: null is none. -/
def optional {α : Type} (decode : Decoder α) : Decoder (Option α)
  | .null => .ok none
  | v => (decode v).map some

/-- A list; the first bad item is the error. -/
def list {α : Type} (decode : Decoder α) : Decoder (List α)
  | .arr items => items.mapM decode
  | v => .error (.invalidType v "a sequence")

/-- The members of an object, with their values decoded. -/
def members {α : Type} (decode : Decoder α) : Decoder (List (String × α))
  | .obj ms => ms.mapM fun m => (decode m.2).map (m.1, ·)
  | v => .error (.invalidType v "a map")

/-- One of the named values: the name as a text, or as the only key of an object that holds null.
`known` lists every accepted name with its value. -/
def named {α : Type} (known : List (String × α)) (v : Json) : Except DecodeError α :=
  let lookUp (name : String) : Except DecodeError α :=
    match known.find? (·.1 == name) with
    | some k => .ok k.2
    | none => .error (.unknownVariant name (known.map (·.1)))
  match v with
  | .str name => lookUp name
  | .obj [(name, held)] => do
    let a ← lookUp name
    match held with
    | .null => .ok a
    | held => .error (.invalidType held "unit")
  | .obj _ => .error (.invalidValue v "map with a single key")
  | v => .error (.invalidType v "string or map")

/-- A record: `set` takes in one member at a time, starting from `start`, and the `required` keys
must all be there. Messages call the record `type`. Some records may also be given as the list of
their values, in the order in which the members are declared; this form is left out, and a list is
an error here. -/
def record {α : Type} (type : String) (required : List String) (start : α)
    (set : String → Json → α → Except DecodeError α) : Decoder α
  | .obj ms => do
    let a ← ms.foldlM (fun a m => set m.1 m.2 a) start
    match required.find? fun key => !ms.any (·.1 == key) with
    | some key => .error (.missingField key)
    | none => .ok a
  | v => .error (.invalidType v ("struct " ++ type))

end Decoder
end SchemaModels
