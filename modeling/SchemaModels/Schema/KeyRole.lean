import SchemaModels.Schema.Column

/-!
# Key roles

What part a column plays in the keys of its table. A column has a key role if it belongs to a
primary or unique key or is generated, too; only a role that is marked as a foreign key refers to
another table.
-/

namespace SchemaModels

/-- When the database generates the value of an identity column. -/
inductive Generation where
  | always
  | byDefault
  deriving DecidableEq, Inhabited

namespace Generation

/-- The accepted names. -/
def known : List (String × Generation) := [("ALWAYS", always), ("BY DEFAULT", byDefault)]

/-- Reads a mode of generation. -/
def decode : Decoder Generation := Decoder.named known

/-- Writes a mode of generation. -/
def toJson : Generation → Json
  | always => .str "ALWAYS"
  | byDefault => .str "BY DEFAULT"

end Generation

/-- The part a column plays in keys. -/
structure KeyRole where
  sourceTable : String := ""
  sourceColumn : String := ""
  targetSchema : Option String := none
  targetTable : Option String := none
  targetColumn : Option String := none
  isForeign : Bool := false
  isPrimary : Bool := false
  isUnique : Bool := false
  isSerial : Bool := false
  generation : Option Generation := none
  deriving DecidableEq, Inhabited

namespace KeyRole

/-- The role of a column that refers to a column of another table. -/
def referringTo (table column : String) : KeyRole :=
  { targetTable := some table, targetColumn := some column, isForeign := true }

/-- Whether the database generates the column as the identity of its row. -/
def isIdentity (k : KeyRole) : Bool :=
  k.isPrimary && k.generation.isSome

/-- Takes in one member. -/
def setMember (key : String) (v : Json) (k : KeyRole) : Except DecodeError KeyRole :=
  match key with
  | "sourceTable" => do return { k with sourceTable := ← Decoder.text v }
  | "sourceColumn" => do return { k with sourceColumn := ← Decoder.text v }
  | "targetSchema" => do return { k with targetSchema := ← Decoder.optional Decoder.text v }
  | "targetTable" => do return { k with targetTable := ← Decoder.optional Decoder.text v }
  | "targetColumn" => do return { k with targetColumn := ← Decoder.optional Decoder.text v }
  | "isForeignKey" => do return { k with isForeign := ← Decoder.bool v }
  | "isPrimaryKey" => do return { k with isPrimary := ← Decoder.bool v }
  | "isUnique" => do return { k with isUnique := ← Decoder.bool v }
  | "isSerialKey" => do return { k with isSerial := ← Decoder.bool v }
  | "generation" => do return { k with generation := ← Decoder.optional Generation.decode v }
  | _ => .ok k

/-- Reads a key role. -/
def decode : Decoder KeyRole :=
  Decoder.record "ForeignKeyDef" [] {} setMember

/-- Writes a key role without the absent values. -/
def toJson (k : KeyRole) : Json :=
  .obj (
    [("sourceTable", .str k.sourceTable), ("sourceColumn", .str k.sourceColumn)]
    ++ Json.optionalMember "targetSchema" (k.targetSchema.map .str)
    ++ Json.optionalMember "targetTable" (k.targetTable.map .str)
    ++ Json.optionalMember "targetColumn" (k.targetColumn.map .str)
    ++ [("isForeignKey", .bool k.isForeign), ("isPrimaryKey", .bool k.isPrimary),
      ("isUnique", .bool k.isUnique), ("isSerialKey", .bool k.isSerial)]
    ++ Json.optionalMember "generation" (k.generation.map Generation.toJson))

end KeyRole
end SchemaModels
