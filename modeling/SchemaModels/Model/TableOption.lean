import SchemaModels.Model.IndexList
import SchemaModels.Schema.Table

/-!
# Table options

The options of one model: its table and schema, what the ORM is to look after, the options that
all models share, and the indexes.
-/

namespace SchemaModels

open Text

/-- An option of a model. -/
inductive TableOption where
  /-- The connection, handed in under its own name. -/
  | connection
  | tableName (name : String)
  | schema (name : String)
  /-- The name of the model, which is put in when the module is complete. -/
  | modelName
  | hasTrigger
  | timestamps (on : Bool)
  | paranoid
  /-- The singular and the plural name, both fixed to the qualified name of the table. -/
  | fixedNames (qualified : String)
  /-- An option that all models share. -/
  | shared (key : String) (value : OptionValue)
  | indexes (list : List Index)
  deriving DecidableEq, Inhabited

/-- An option value in script code: texts are quoted. -/
def OptionValue.render : OptionValue → String
  | text s => "'" ++ backslashBefore '\'' s ++ "'"
  | v => v.display

namespace TableOption

/-- The key of the option. -/
def key : TableOption → String
  | connection => "sequelize"
  | tableName _ => "tableName"
  | schema _ => "schema"
  | modelName => "modelName"
  | hasTrigger => "hasTrigger"
  | timestamps _ => "timestamps"
  | paranoid => "paranoid"
  | fixedNames _ => "name"
  | shared k _ => k
  | indexes _ => "indexes"

/-- The text of the option, without the comma after it. -/
def render (ctx : Context) : TableOption → String
  | connection => ctx.indent 2 ++ "sequelize"
  | tableName name => ctx.indent 2 ++ "tableName: '" ++ name ++ "'"
  | schema name => ctx.indent 2 ++ "schema: '" ++ name ++ "'"
  | modelName => ctx.indent 2 ++ "modelName: '" ++ modelToken ++ "'"
  | hasTrigger => ctx.indent 2 ++ "hasTrigger: true"
  | timestamps on => ctx.indent 2 ++ "timestamps: " ++ (if on then "true" else "false")
  | paranoid => ctx.indent 2 ++ "paranoid: true"
  | fixedNames q =>
    ctx.indent 2 ++ "name: \x7b\n" ++ ctx.indent 3 ++ "singular: '" ++ q ++ "',\n"
      ++ ctx.indent 3 ++ "plural: '" ++ q ++ "'\n" ++ ctx.indent 2 ++ "\x7d"
  | shared k v => ctx.indent 2 ++ k ++ ": " ++ v.render
  | indexes list => (Index.renderList? ctx list).getD ""

/-- Whether the ORM is to keep timestamps: if that is asked for, or if a column looks like one. -/
def keepsTimestamps (s : Settings) (t : Table) : Bool :=
  s.options.timestamps? = some true || t.columns.any fun c => s.isTimestamp c.name

/-- Whether the ORM is to delete softly: if that is asked for, or if a column looks like it. -/
def deletesSoftly (s : Settings) (t : Table) : Bool :=
  s.options.paranoid? = some true || t.columns.any fun c => s.isSoftDelete c.name

/-- The option that a shared one becomes: those with a meaning of their own are decided elsewhere.
-/
def ofShared (options : ModelOptions) (t : Table) (key : String) (value : OptionValue) :
    List TableOption :=
  if key = "timestamps" || key = "paranoid" then []
  else if key = "name" then
    if options.fixesNames then [fixedNames t.name.qualified] else []
  else [shared key value]

/-- The options of the model of a table, in order. -/
def ofTable (ctx : Context) (t : Table) : List TableOption :=
  let s := ctx.settings
  (if s.useDefine then [] else [connection])
  ++ [tableName t.name.name]
  ++ (if ctx.dialect.hasSchemas then (t.name.schema.map schema).toList else [])
  ++ [modelName]
  ++ (if t.hasTrigger then [hasTrigger] else [])
  ++ [timestamps (keepsTimestamps s t)]
  ++ (if deletesSoftly s t then [paranoid] else [])
  ++ s.options.entries.flatMap (fun e => ofShared s.options t e.1 e.2)
  ++ (if s.noIndexes || t.indexes.isEmpty then [] else [indexes t.indexes])

end TableOption
end SchemaModels
