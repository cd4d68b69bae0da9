import SchemaModels.Json.Decode

/-!
# Relations

An association between two tables that a foreign key implies. Each end names its table, and the
names under which the generated code knows it.
-/

namespace SchemaModels

/-- One end of a relation. -/
structure Endpoint where
  /-- The qualified name of the table. -/
  table : String := ""
  model : String := ""
  property : String := ""
  /-- The column that holds the key. -/
  key : String := ""
  deriving DecidableEq, Inhabited

/-- A relation between a parent, which is referred to, and a child, which refers to it; in a
many-to-many relation both are referred to by a third table. -/
structure Relation where
  parent : Endpoint := {}
  child : Endpoint := {}
  isOne : Bool := false
  isManyToMany : Bool := false
  deriving DecidableEq, Inhabited

namespace Relation

/-- Takes in one member. -/
def setMember (key : String) (v : Json) (r : Relation) : Except DecodeError Relation :=
  match key with
  | "parentTable" => do return { r with parent := { r.parent with table := ← Decoder.text v } }
  | "parentModel" => do return { r with parent := { r.parent with model := ← Decoder.text v } }
  | "parentProp" => do return { r with parent := { r.parent with property := ← Decoder.text v } }
  | "parentId" => do return { r with parent := { r.parent with key := ← Decoder.text v } }
  | "childTable" => do return { r with child := { r.child with table := ← Decoder.text v } }
  | "childModel" => do return { r with child := { r.child with model := ← Decoder.text v } }
  | "childProp" => do return { r with child := { r.child with property := ← Decoder.text v } }
  | "childId" => do return { r with child := { r.child with key := ← Decoder.text v } }
  | "isOne" => do return { r with isOne := ← Decoder.bool v }
  | "isM2M" => do return { r with isManyToMany := ← Decoder.bool v }
  | _ => .ok r

/-- The members that must be given. -/
def requiredMembers : List String :=
  ["parentTable", "parentModel", "parentProp", "parentId", "childTable", "childModel", "childProp",
    "childId"]

/-- Reads a relation. -/
def decode : Decoder Relation :=
  Decoder.record "RelationDef" requiredMembers {} setMember

/-- Writes a relation. -/
def toJson (r : Relation) : Json :=
  .obj [
    ("parentTable", .str r.parent.table), ("parentModel", .str r.parent.model),
    ("parentProp", .str r.parent.property), ("parentId", .str r.parent.key),
    ("childTable", .str r.child.table), ("childModel", .str r.child.model),
    ("childProp", .str r.child.property), ("childId", .str r.child.key),
    ("isOne", .bool r.isOne), ("isM2M", .bool r.isManyToMany)]

end Relation
end SchemaModels
