import SchemaModels.Schema.Column
import SchemaModels.Text.Search

/-!
# Database engines

The engine a schema comes from. Only a few rules depend on it: whether tables live in schemas, how
a generated column shows, and which defaults mean none.
-/

namespace SchemaModels

/-- A database engine. -/
inductive Dialect where
  | postgres
  | mysql
  | mariadb
  | mssql
  | sqlite
  deriving DecidableEq, Inhabited

namespace Dialect

/-- The name of the engine. -/
def name : Dialect → String
  | postgres => "postgres"
  | mysql => "mysql"
  | mariadb => "mariadb"
  | mssql => "mssql"
  | sqlite => "sqlite"

/-- All engines. -/
def all : List Dialect := [postgres, mysql, mariadb, mssql, sqlite]

/-- Reads an engine by its name. -/
def decode : Decoder Dialect :=
  Decoder.named (all.map fun d => (d.name, d))

/-- Writes an engine by its name. -/
def toJson (d : Dialect) : Json := .str d.name

/-- Whether tables live in schemas that a model has to declare. -/
def hasSchemas (d : Dialect) : Bool :=
  d = postgres || d = mssql

/-- Whether the column alone shows that the database generates its value: on postgres, a default
that takes the next value of a sequence. -/
def isSerial (d : Dialect) (c : Column) : Bool :=
  match d, c.defaultValue with
  | postgres, some (.text s) => Text.beginsWith "nextval(" s && Text.contains "::regclass" s
  | _, _ => false

end Dialect
end SchemaModels
