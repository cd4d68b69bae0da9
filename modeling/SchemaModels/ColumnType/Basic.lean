import SchemaModels.Schema.Column
import SchemaModels.Text.Case
import SchemaModels.Text.Search

/-!
# Column types and their families

What the type mappings look at, and the families of types that are told by how a type begins or
ends. The families expect a type in lower case.
-/

namespace SchemaModels

open Text

/-- The type information of a column. -/
structure ColumnType where
  /-- The type as the database writes it. -/
  sqlType : String
  elementType : Option String := none
  labels : List String := []
  deriving DecidableEq, Inhabited

/-- What the type mappings look at in a column. -/
def Column.type (c : Column) : ColumnType :=
  ⟨c.sqlType, c.elementType, c.labels⟩

/-- The type in lower case. -/
def ColumnType.lowered (t : ColumnType) : String :=
  lowercase t.sqlType

namespace TypeFamily

/-- Types of numbers. -/
def isNumber (t : String) : Bool :=
  beginsWithAny ["smallint", "mediumint", "tinyint", "int", "bigint", "float", "money",
    "smallmoney", "double", "decimal", "numeric", "real", "oid"] t

/-- Types of truth values. -/
def isBoolean (t : String) : Bool :=
  beginsWithAny ["boolean", "bit"] t

/-- Types of points in time. -/
def isDate (t : String) : Bool :=
  beginsWithAny ["datetime", "timestamp"] t

/-- Types whose values script code holds as texts. -/
def isString (t : String) : Bool :=
  beginsWithAny ["char", "nchar", "string", "varying", "varchar", "nvarchar", "text", "longtext",
    "mediumtext", "tinytext", "ntext", "uuid", "uniqueidentifier", "date", "time", "inet", "cidr",
    "macaddr"] t

/-- Types of arrays and ranges. -/
def isArray (t : String) : Bool :=
  beginsWith "array" t || endsWith "range" t

/-- Types of enums. -/
def isEnum (t : String) : Bool :=
  beginsWith "enum" t

/-- Types of JSON values. -/
def isJson (t : String) : Bool :=
  beginsWith "json" t

/-- The families with their names. -/
def all : List (String × (String → Bool)) := [
  ("number", isNumber), ("boolean", isBoolean), ("date", isDate), ("string", isString),
  ("array", isArray), ("enum", isEnum), ("json", isJson)]

end TypeFamily
end SchemaModels
