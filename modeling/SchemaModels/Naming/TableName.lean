/-!
# Qualified table names

A table is named by its own name and, in databases that have schemas, the schema it lives in. The
qualified form `schema.table` keys tables and relations. Only a dot after the first character
parts a schema from a table, and whatever follows a second dot is dropped.
-/

namespace SchemaModels

/-- The name of a table with the schema it lives in, if any. -/
structure TableName where
  schema : Option String
  name : String
  deriving DecidableEq, Inhabited

namespace TableName

/-- Splits a qualified name into schema and table. -/
def split (qualified : String) : Option String × String :=
  let isName (c : Char) : Bool := c != '.'
  match qualified.toList.takeWhile isName, qualified.toList.dropWhile isName with
  | [], _ => (none, qualified)
  | _, [] => (none, qualified)
  | schema, _ :: rest => (some (String.ofList schema), String.ofList (rest.takeWhile isName))

/-- Joins a schema and a table; an empty schema counts as none. -/
def join (schema : Option String) (table : String) : String :=
  match schema with
  | some s => if s = "" then table else s ++ "." ++ table
  | none => table

/-- The table name that a qualified name stands for. -/
def parse (qualified : String) : TableName :=
  let (schema, name) := split qualified
  ⟨schema, name⟩

/-- The qualified form of the name. -/
def qualified (t : TableName) : String :=
  join t.schema t.name

end TableName
end SchemaModels
