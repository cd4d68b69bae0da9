import SchemaModels.ColumnType.MemberType
import SchemaModels.Model.Context
import SchemaModels.Model.Mixins
import SchemaModels.Naming.Identifier
import SchemaModels.Schema.Table

/-!
# The typed section

What a typed module declares before the definition of its model: the imports that its associations
need, the interface of its attributes, the types of its keys and of new rows, and the class with
the same attributes and the members of its associations. It ends with the line that opens the
definition.
-/

namespace SchemaModels

open Naming Text

/-- A column as a member of the interface and of the class. -/
structure Member where
  property : String
  nullable : Bool
  type : MemberType
  deriving Inhabited

/-- The types imported from the module of another table. -/
structure Import where
  file : String
  names : List String
  deriving DecidableEq, Inhabited

/-- The content of the typed section of a module. -/
structure TypedSection where
  imports : List Import
  members : List Member
  /-- The properties of the primary key. -/
  primaryKey : List String
  /-- The properties that a new row may leave out. -/
  optional : List String
  /-- The lines of the association members. -/
  associations : String
  deriving Inhabited

namespace Member

/-- The member that holds a column. -/
def ofColumn (s : Settings) (c : Column) : Member :=
  ⟨s.propertyName c.name, c.nullable, c.type.memberType⟩

/-- The line of a member; `required` marks those that are always there. -/
def render (ctx : Context) (required : String) (m : Member) : String :=
  ctx.indent 1 ++ propertyKey m.property ++ (if m.nullable then "?" else required) ++ ": "
    ++ m.type.render ++ ";"

end Member

/-- The file of the module of a table, without its extension. -/
def Settings.fileName (s : Settings) (table : String) : Except InflectionFailure String :=
  s.fileStyle.apply s.singularize table

/-- The line that imports types from the module of another table. -/
def Import.render (i : Import) : String :=
  "import type \x7b " ++ String.intercalate ", " i.names ++ " \x7d from './" ++ i.file ++ "';"

namespace TypedSection

/-- Whether a new row may leave a column out. -/
def isOptional (s : Settings) (c : Column) : Bool :=
  c.nullable || c.defaultValue.isSome || c.autoIncrement || s.isTimestamp c.name

/-- The import for one entry of the needed types. -/
def importOf (s : Settings) (needed : String × List String) : Except InflectionFailure Import := do
  return ⟨← s.fileName (TableName.split needed.1).2, needed.2⟩

/-- The members of a table: its columns but for those that the user asked to leave out. -/
def membersOf (s : Settings) (t : Table) : List Member :=
  (t.columns.filter fun c => !s.isSkipped c.name).map (Member.ofColumn s)

/-- The typed section for a table with the given associations. -/
def of (s : Settings) (t : Table) (mixins : Mixins) : Except InflectionFailure TypedSection := do
  return {
    imports := ← mixins.needed.mapM (importOf s)
    members := membersOf s t
    primaryKey := t.primaryKeys.map fun c => s.propertyName c.name
    optional := (t.columns.filter (isOptional s)).map fun c => s.propertyName c.name
    associations := mixins.text }

/-- A union of literal types. -/
def literalUnion (properties : List String) : String :=
  String.intercalate " | " (properties.map fun p => "\"" ++ p ++ "\"")

/-- The lines for the interface of the attributes. -/
def interfaceLines (ctx : Context) (s : TypedSection) : List String :=
  ["", "export interface " ++ modelToken ++ "Attributes \x7b"]
  ++ s.members.map (·.render ctx "") ++ ["\x7d", ""]

/-- The lines for the types of the primary key, if there is one. -/
def keyLines (s : TypedSection) : List String :=
  if s.primaryKey.isEmpty then []
  else [
    "export type " ++ modelToken ++ "Pk = " ++ literalUnion s.primaryKey ++ ";",
    "export type " ++ modelToken ++ "Id = " ++ modelToken ++ "[" ++ modelToken ++ "Pk];"]

/-- The lines for the type of a new row. -/
def creationLines (s : TypedSection) : List String :=
  let creation := "export type " ++ modelToken ++ "CreationAttributes = "
  if s.optional.isEmpty then [creation ++ modelToken ++ "Attributes;", ""]
  else [
    "export type " ++ modelToken ++ "OptionalAttributes = " ++ literalUnion s.optional ++ ";",
    creation ++ "Optional<" ++ modelToken ++ "Attributes, " ++ modelToken ++ "OptionalAttributes>;",
    ""]

/-- The line that opens the class. -/
def classLine : String :=
  "export class " ++ modelToken ++ " extends Model<" ++ modelToken ++ "Attributes, " ++ modelToken
    ++ "CreationAttributes> implements " ++ modelToken ++ "Attributes \x7b"

/-- The lines that open the definition. -/
def openingLines (ctx : Context) : List String := [
  "",
  ctx.indent 1 ++ "static initModel(sequelize: Sequelize.Sequelize): typeof " ++ modelToken
    ++ " \x7b",
  if ctx.settings.useDefine then
    ctx.indent 2 ++ "return sequelize.define('" ++ modelToken ++ "', \x7b"
  else ctx.indent 2 ++ "return " ++ modelToken ++ ".init(\x7b"]

/-- The typed section in the generated code. -/
def render (ctx : Context) (s : TypedSection) : String :=
  unlines (s.imports.map (·.render) ++ s.interfaceLines ctx ++ s.keyLines ++ s.creationLines
    ++ [classLine] ++ s.members.map (·.render ctx "!") ++ [""])
  ++ s.associations ++ unlines (openingLines ctx)

end TypedSection
end SchemaModels
