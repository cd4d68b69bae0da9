import SchemaModels.ColumnType.DataType
import SchemaModels.DefaultValue
import SchemaModels.Model.Context
import SchemaModels.Naming.Identifier
import SchemaModels.Schema.Table

/-!
# Attribute blocks

Each column that is not omitted gets a block in its model: the property that holds it, and what
the model declares about it. The declarations come in a fixed order, and each is there only if the
column calls for it.
-/

namespace SchemaModels

open Naming Text

/-- The type that a model declares for a column: a data type of the ORM or, if there is none, the
type as the database writes it. -/
inductive DeclaredType where
  | mapped (type : DataType)
  | verbatim (sqlType : String)
  deriving Inhabited

/-- The expression for a declared type. -/
def DeclaredType.render : DeclaredType → String
  | mapped t => t.render
  | verbatim s => scriptQuoted s

/-- The type to declare for a column. -/
def Column.declaredType (c : Column) : DeclaredType :=
  match c.type.dataType? with
  | some t => .mapped t
  | none => .verbatim c.sqlType

/-- What a model declares about a column. -/
inductive Attribute where
  | autoIncrement
  | autoIncrementIdentity
  | type (declared : DeclaredType)
  | allowNull (allowed : Bool)
  | defaultValue (value : DefaultValue)
  | primaryKey
  | references (table column : String)
  | comment (text : String)
  /-- A property of the column that is passed through. -/
  | extra (key : String) (value : Value)
  /-- The name of the constraint, or none for a plain flag. -/
  | unique (constraint : Option String)
  /-- The column, if the property has another name. -/
  | field (column : String)
  deriving Inhabited

namespace Attribute

/-- The key of the declaration. -/
def key : Attribute → String
  | autoIncrement => "autoIncrement"
  | autoIncrementIdentity => "autoIncrementIdentity"
  | type _ => "type"
  | allowNull _ => "allowNull"
  | defaultValue _ => "defaultValue"
  | primaryKey => "primaryKey"
  | references _ _ => "references"
  | comment _ => "comment"
  | extra k _ => k
  | unique _ => "unique"
  | field _ => "field"

/-- A truth value in script code. -/
def truth (b : Bool) : String := if b then "true" else "false"

/-- A passed-through value in script code: texts are quoted. -/
def extraValue : Value → String
  | .text s => scriptQuoted s
  | v => v.display

/-- The value of the declaration. -/
def value (ctx : Context) : Attribute → String
  | autoIncrement => "true"
  | autoIncrementIdentity => "true"
  | type t => t.render
  | allowNull b => truth b
  | defaultValue d => d.render
  | primaryKey => "true"
  | references table column =>
    "\x7b\n" ++ ctx.indent 4 ++ "model: '" ++ table ++ "',\n"
      ++ ctx.indent 4 ++ "key: '" ++ column ++ "'\n" ++ ctx.indent 3 ++ "\x7d"
  | comment s => scriptQuoted s
  | extra _ v => extraValue v
  | unique none => "true"
  | unique (some name) => "\"" ++ backslashBefore '"' name ++ "\""
  | field column => "'" ++ column ++ "'"

/-- The line of the declaration, without the comma after it. -/
def render (ctx : Context) (a : Attribute) : String :=
  ctx.indent 3 ++ a.key ++ ": " ++ a.value ctx

/-- Extras that the key role of a column already expresses. -/
def expressedByKeyRole : List String := ["references", "foreignKey"]

/-- The declarations for a column that counts up by itself. -/
def ofCounting (ctx : Context) (role : Option KeyRole) (counts : Bool) : List Attribute :=
  if counts then
    if ctx.dialect = .postgres && role.any (·.isIdentity) then
      [autoIncrement, autoIncrementIdentity]
    else [autoIncrement]
  else []

/-- The reference to the column that a foreign key refers to, if both table and column are known.
-/
def ofReference (role : Option KeyRole) : List Attribute :=
  match role with
  | some { isForeign := true, targetTable := some table, targetColumn := some column, .. } =>
    [references table column]
  | _ => []

/-- The comment, except where the engine has none. -/
def ofComment (ctx : Context) (text : Option String) : List Attribute :=
  match text with
  | some s => if ctx.dialect = .mssql || s = "" then [] else [comment s]
  | none => []

/-- The extras that are neither null nor expressed otherwise. -/
def ofExtras (extras : OrderedMap Value) : List Attribute :=
  (extras.entries.filter fun e => !expressedByKeyRole.contains e.1 && !e.2.isNull).map
    fun e => extra e.1 e.2

/-- The uniqueness that the column states itself or else has by its key role. -/
def ofUniqueness (stated : Option Uniqueness) (role : Option KeyRole) : List Attribute :=
  match stated with
  | some (.flag true) => [unique none]
  | some (.named name) =>
    if name ≠ "" then [unique (some name)]
    else if role.any (·.isUnique) then [unique none] else []
  | _ => if role.any (·.isUnique) then [unique none] else []

/-- Everything that a model declares about a column. A column counts as a part of the primary key
only if its key role, if it has one, agrees. -/
def ofColumn (ctx : Context) (table : Table) (c : Column) : List Attribute :=
  let role := table.keyRole? c.name
  let isSerial := role.any (·.isSerial) || ctx.dialect.isSerial c
  ofCounting ctx role (isSerial || c.autoIncrement)
  ++ [type c.declaredType, allowNull c.nullable]
  ++ ((DefaultValue.ofReported c.defaultValue c.sqlType c.elementType ctx.dialect isSerial).map
    defaultValue).toList
  ++ (if c.primaryKey && role.all (·.isPrimary) then [primaryKey] else [])
  ++ ofReference role
  ++ ofComment ctx c.comment
  ++ ofExtras c.extras
  ++ ofUniqueness c.unique role
  ++ (if ctx.settings.propertyName c.name ≠ c.name then [field c.name] else [])

end Attribute

/-- The block of a column: the property that holds it, and its declarations. -/
structure AttributeBlock where
  column : String
  property : String
  attributes : List Attribute
  deriving Inhabited

namespace AttributeBlock

/-- The block of a column, none if the column is omitted. -/
def ofColumn? (ctx : Context) (table : Table) (c : Column) : Option AttributeBlock :=
  if ctx.settings.isOmitted c.name then none
  else some ⟨c.name, ctx.settings.propertyName c.name, Attribute.ofColumn ctx table c⟩

/-- The block in the generated code, without the comma after it. -/
def render (ctx : Context) (b : AttributeBlock) : String :=
  ctx.indent 2 ++ propertyKey b.property ++ ": \x7b\n"
    ++ String.intercalate ",\n" (b.attributes.map (·.render ctx)) ++ "\n" ++ ctx.indent 2 ++ "\x7d"

end AttributeBlock

/-- The blocks of a table, in the order of its columns. -/
def Table.attributeBlocks (ctx : Context) (t : Table) : List AttributeBlock :=
  t.columns.filterMap (AttributeBlock.ofColumn? ctx t)

end SchemaModels
