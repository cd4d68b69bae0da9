import SchemaModels.OrderedMap
import SchemaModels.Schema.Value

/-!
# Columns

One column of a table as introspection reports it. What is not among the known properties is kept,
in order, to be passed through to the generated attribute.
-/

namespace SchemaModels

/-- Whether a column is unique: a plain flag, or the name of the constraint that makes it so. -/
inductive Uniqueness where
  | flag (b : Bool)
  | named (constraint : String)
  deriving DecidableEq, Inhabited

namespace Uniqueness

/-- Reads a flag or a name. -/
def decode : Decoder Uniqueness
  | .bool b => .ok (flag b)
  | .str s => .ok (named s)
  | _ => .error (.noAlternative "UniqueSpec")

/-- Writes a flag or a name. -/
def toJson : Uniqueness → Json
  | flag b => .bool b
  | named s => .str s

end Uniqueness

/-- A column. -/
structure Column where
  name : String
  /-- The type as the database writes it, such as `varchar(255)` or `int unsigned`. -/
  sqlType : String
  nullable : Bool := false
  defaultValue : Option Value := none
  primaryKey : Bool := false
  autoIncrement : Bool := false
  unique : Option Uniqueness := none
  comment : Option String := none
  /-- The type of the elements of an array, or the kind of a spatial column. -/
  elementType : Option String := none
  /-- The labels of an enum that are reported apart from its type. -/
  labels : List String := []
  /-- All other properties, passed through. -/
  extras : OrderedMap Value := .empty
  deriving Inhabited

namespace Column

/-- Takes in one member; a null stands for no default, type of elements, comment or uniqueness. -/
def setMember (key : String) (v : Json) (c : Column) : Except DecodeError Column :=
  match key with
  | "name" => do return { c with name := ← Decoder.text v }
  | "type" => do return { c with sqlType := ← Decoder.text v }
  | "allowNull" => do return { c with nullable := ← Decoder.bool v }
  | "defaultValue" => do
    return { c with defaultValue := ← Decoder.optional (fun v => .ok (Value.ofJson v)) v }
  | "primaryKey" => do return { c with primaryKey := ← Decoder.bool v }
  | "autoIncrement" => do return { c with autoIncrement := ← Decoder.bool v }
  | "unique" => do return { c with unique := ← Decoder.optional Uniqueness.decode v }
  | "comment" => do return { c with comment := ← Decoder.optional Decoder.text v }
  | "elementType" => do return { c with elementType := ← Decoder.optional Decoder.text v }
  | "special" => do return { c with labels := ← Decoder.list Decoder.text v }
  | key => .ok { c with extras := c.extras.insert key (Value.ofJson v) }

/-- Reads a column. -/
def decode : Decoder Column :=
  Decoder.record "FieldDef" ["name", "type"] { name := "", sqlType := "" } setMember

/-- Writes a column: absent values and an empty list of labels are left out, and the extras come
last. -/
def toJson (c : Column) : Json :=
  .obj (
    [("name", .str c.name), ("type", .str c.sqlType), ("allowNull", .bool c.nullable)]
    ++ Json.optionalMember "defaultValue" (c.defaultValue.map Value.toJson)
    ++ [("primaryKey", .bool c.primaryKey), ("autoIncrement", .bool c.autoIncrement)]
    ++ Json.optionalMember "unique" (c.unique.map Uniqueness.toJson)
    ++ Json.optionalMember "comment" (c.comment.map .str)
    ++ Json.optionalMember "elementType" (c.elementType.map .str)
    ++ Json.optionalMember "special"
      (if c.labels.isEmpty then none else some (.arr (c.labels.map .str)))
    ++ c.extras.entries.map fun e => (e.1, e.2.toJson))

end Column
end SchemaModels
