import SchemaModels.Naming.TableName
import SchemaModels.Schema.Column
import SchemaModels.Schema.Index
import SchemaModels.Schema.KeyRole
import SchemaModels.Schema.Relation

/-!
# Tables

A table with its columns, keys and indexes, and everything that introspection reports for one
database. A table may report a column more than once; only the first column of each name counts.
Reading a table sees to this by asking those kept so far for the name (`keepUnseen`), and the view
of the columns by looking back at the list (`unrepeated`).
-/

namespace SchemaModels

/-- Whether one of the columns has the name. -/
def hasName (name : String) (cs : List Column) : Bool :=
  cs.any (·.name == name)

/-- Keeps the column as well, unless one of those kept so far has its name. -/
def keepUnseen (kept : List Column) (c : Column) : List Column :=
  if hasName c.name kept then kept else kept ++ [c]

/-- The columns with none of the same name before them. -/
def unrepeated (cs : List Column) : List Column :=
  (cs.zipIdx.filter fun e => !hasName e.1.name (cs.take e.2)).map (·.1)

namespace TableName

/-- Reads a qualified name. -/
def decode : Decoder TableName := fun v =>
  (Decoder.text v).map parse

/-- Writes the qualified name. -/
def toJson (t : TableName) : Json := .str t.qualified

end TableName

/-- A table. -/
structure Table where
  name : TableName
  /-- The columns as they were added; a name may repeat. -/
  fields : List Column := []
  /-- The key roles, by column name. -/
  keys : OrderedMap KeyRole := .empty
  indexes : List Index := []
  hasTrigger : Bool := false
  deriving Inhabited

namespace Table

/-- The columns, each name once, in order. -/
def columns (t : Table) : List Column :=
  unrepeated t.fields

/-- The columns of the primary key, in order. -/
def primaryKeys (t : Table) : List Column :=
  t.columns.filter (·.primaryKey)

/-- The first column with a name. -/
def column? (t : Table) (name : String) : Option Column :=
  t.fields.find? (·.name == name)

/-- The key role of a column. -/
def keyRole? (t : Table) (column : String) : Option KeyRole :=
  t.keys.get? column

/-- Appends a column unless there is one of its name. -/
def addColumn (t : Table) (c : Column) : Table :=
  if (t.column? c.name).isNone then { t with fields := t.fields ++ [c] } else t

/-- Sets the key role of a column. -/
def setKeyRole (t : Table) (column : String) (role : KeyRole) : Table :=
  { t with keys := t.keys.insert column role }

/-- Appends an index. -/
def addIndex (t : Table) (i : Index) : Table :=
  { t with indexes := t.indexes ++ [i] }

/-- Takes in one member. -/
def setMember (key : String) (v : Json) (t : Table) : Except DecodeError Table :=
  match key with
  | "name" => do return { t with name := ← TableName.decode v }
  | "fields" => do
    return { t with fields := (← Decoder.list Column.decode v).foldl keepUnseen [] }
  | "foreignKeys" => do
    return { t with keys := OrderedMap.ofList (← Decoder.members KeyRole.decode v) }
  | "indexes" => do return { t with indexes := ← Decoder.list Index.decode v }
  | "hasTrigger" => do return { t with hasTrigger := ← Decoder.bool v }
  | _ => .ok t

/-- Reads a table. -/
def decode : Decoder Table :=
  Decoder.record "TableDef" ["name", "fields"] { name := default } setMember

/-- Writes a table; empty keys and indexes are left out. -/
def toJson (t : Table) : Json :=
  .obj (
    [("name", t.name.toJson), ("fields", .arr (t.fields.map Column.toJson))]
    ++ Json.optionalMember "foreignKeys"
      (if t.keys.isEmpty then none
        else some (.obj (t.keys.entries.map fun e => (e.1, e.2.toJson))))
    ++ Json.optionalMember "indexes"
      (if t.indexes.isEmpty then none else some (.arr (t.indexes.map Index.toJson)))
    ++ [("hasTrigger", .bool t.hasTrigger)])

end Table

/-- Everything that introspection reports for one database. -/
structure Database where
  tables : List Table := []
  relations : List Relation := []
  deriving Inhabited

namespace Database

/-- The first table with a qualified name. -/
def table? (d : Database) (qualified : String) : Option Table :=
  d.tables.find? (·.name.qualified == qualified)

/-- Takes in one member. -/
def setMember (key : String) (v : Json) (d : Database) : Except DecodeError Database :=
  match key with
  | "tables" => do return { d with tables := ← Decoder.list Table.decode v }
  | "relations" => do return { d with relations := ← Decoder.list Relation.decode v }
  | _ => .ok d

/-- Reads a database. -/
def decode : Decoder Database :=
  Decoder.record "TableData" ["tables"] {} setMember

/-- Writes a database. -/
def toJson (d : Database) : Json :=
  .obj [
    ("tables", .arr (d.tables.map Table.toJson)),
    ("relations", .arr (d.relations.map Relation.toJson))]

end Database
end SchemaModels
