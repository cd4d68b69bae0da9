import SchemaModels.Schema.Column

/-!
# Indexes

An index over one or more columns of a table, each with its own collation, length and order.
-/

namespace SchemaModels

/-- A column as a part of an index. -/
structure IndexPart where
  column : String
  collate : Option String := none
  length : Option Nat := none
  order : Option String := none
  deriving DecidableEq, Inhabited

/-- An index. -/
structure Index where
  name : Option String := none
  unique : Bool := false
  /-- The kind of index (`FULLTEXT`, `SPATIAL`) or the method of access (`BTREE`, `gin`). -/
  kind : Option String := none
  parts : List IndexPart := []
  deriving DecidableEq, Inhabited

namespace IndexPart

/-- Takes in one member. -/
def setMember (key : String) (v : Json) (p : IndexPart) : Except DecodeError IndexPart :=
  match key with
  | "attribute" => do return { p with column := ← Decoder.text v }
  | "collate" => do return { p with collate := ← Decoder.optional Decoder.text v }
  | "length" => do
    return { p with length := ← Decoder.optional (Decoder.natUpTo maxUInt32 "u32") v }
  | "order" => do return { p with order := ← Decoder.optional Decoder.text v }
  | _ => .ok p

/-- Reads a part of an index. -/
def decode : Decoder IndexPart :=
  Decoder.record "IndexField" ["attribute"] { column := "" } setMember

/-- Writes a part without the absent values. -/
def toJson (p : IndexPart) : Json :=
  .obj (
    [("attribute", .str p.column)]
    ++ Json.optionalMember "collate" (p.collate.map .str)
    ++ Json.optionalMember "length" (p.length.map fun n => .int n)
    ++ Json.optionalMember "order" (p.order.map .str))

end IndexPart

namespace Index

/-- An index without name and kind over the given columns. -/
def ofColumns (columns : List String) : Index :=
  { parts := columns.map fun c => { column := c } }

/-- Takes in one member. -/
def setMember (key : String) (v : Json) (i : Index) : Except DecodeError Index :=
  match key with
  | "name" => do return { i with name := ← Decoder.optional Decoder.text v }
  | "unique" => do return { i with unique := ← Decoder.bool v }
  | "type" => do return { i with kind := ← Decoder.optional Decoder.text v }
  | "fields" => do return { i with parts := ← Decoder.list IndexPart.decode v }
  | _ => .ok i

/-- Reads an index. -/
def decode : Decoder Index :=
  Decoder.record "IndexDef" ["fields"] {} setMember

/-- Writes an index without the absent values. -/
def toJson (i : Index) : Json :=
  .obj (
    Json.optionalMember "name" (i.name.map .str)
    ++ [("unique", .bool i.unique)]
    ++ Json.optionalMember "type" (i.kind.map .str)
    ++ [("fields", .arr (i.parts.map IndexPart.toJson))])

end Index
end SchemaModels
