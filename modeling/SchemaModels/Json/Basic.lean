import SchemaModels.Decimal.Layout
import SchemaModels.OrderedMap
import SchemaModels.Text.Quoted

/-!
# JSON values

Objects keep the order of their members, and integers are told apart from other numbers: `1` is an
integer and `1.0` is not.
-/

namespace SchemaModels

/-- A JSON value. An object built by `Json.ofMembers` has each key once. -/
inductive Json where
  | null
  | bool (b : Bool)
  | int (n : Int)
  | float (x : Binary64)
  | str (s : String)
  | arr (items : List Json)
  | obj (members : List (String × Json))
  deriving Inhabited

namespace Json

/-- The object with the given members, of which the last with a key counts. -/
def ofMembers (members : List (String × Json)) : Json :=
  .obj (members.foldl (fun ms m => putEntry m.1 m.2 ms) [])

/-- The value of a member of an object. -/
def get? (key : String) : Json → Option Json
  | .obj members => (members.find? (·.1 == key)).map (·.2)
  | _ => none

/-- The member under a key, if there is a value for it. -/
def optionalMember (key : String) (value : Option Json) : List (String × Json) :=
  match value with
  | some v => [(key, v)]
  | none => []

mutual

/-- The JSON text of a value, without any spaces. -/
def compact : Json → String
  | .null => "null"
  | .bool b => if b then "true" else "false"
  | .int n => toString n
  | .float x => Decimal.Layout.json.write x
  | .str s => Text.jsonQuoted s
  | .arr items => "[" ++ String.intercalate "," (compactItems items) ++ "]"
  | .obj members => "\x7b" ++ String.intercalate "," (compactMembers members) ++ "\x7d"

/-- The JSON texts of the items of an array. -/
def compactItems : List Json → List String
  | [] => []
  | v :: vs => v.compact :: compactItems vs

/-- The JSON texts of the members of an object. -/
def compactMembers : List (String × Json) → List String
  | [] => []
  | (k, v) :: ms => (Text.jsonQuoted k ++ ":" ++ v.compact) :: compactMembers ms

end

end Json
end SchemaModels
