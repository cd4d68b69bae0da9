import SchemaModels.Naming.NameStyle
import SchemaModels.Settings.Indent
import SchemaModels.Settings.Language
import SchemaModels.Settings.ModelOptions

/-!
# Settings of a generation run

What the user chooses for all models: the output language, the layout, the styles of names, the
columns to leave out and the model options. From the model options follows which columns the ORM
looks after by itself: the timestamps of creation and update, and the time of a soft deletion.
-/

namespace SchemaModels

open Naming

/-- The settings of a generation run. -/
structure Settings where
  language : Language := .es5
  /-- Define models by `sequelize.define` even inside a class. -/
  useDefine : Bool := false
  /-- Indent by spaces, else by tabs. -/
  spaces : Bool := true
  indentation : Nat := 2
  modelStyle : NameStyle := .asIs
  propertyStyle : NameStyle := .asIs
  fileStyle : NameStyle := .asIs
  /-- Make the names of models and files singular. -/
  singularize : Bool := false
  skipFields : List String := []
  options : ModelOptions := .empty
  noIndexes : Bool := false
  deriving DecidableEq

namespace Settings

instance : Inhabited Settings := ⟨{}⟩

/-- The indentation of the generated code. -/
def indent (s : Settings) : Indent :=
  .new s.spaces s.indentation

/-- Whether a column is the one chosen by name or, if none is chosen, the one that is called
`standard` in camel case. -/
def isColumnFor (chosen : Option String) (standard column : String) : Bool :=
  match chosen with
  | some name => name = column
  | none => camelCase column = standard

/-- Whether the column holds the time of creation or of the last update, looked after by the ORM
unless timestamps are off. -/
def isTimestamp (s : Settings) (column : String) : Bool :=
  s.options.timestamps? ≠ some false &&
    (isColumnFor s.options.createdAt? "createdAt" column ||
      isColumnFor s.options.updatedAt? "updatedAt" column)

/-- Whether the column holds the time of a soft deletion, looked after by the ORM unless
timestamps or soft deletion are off. -/
def isSoftDelete (s : Settings) (column : String) : Bool :=
  s.options.timestamps? ≠ some false && s.options.paranoid? ≠ some false &&
    isColumnFor s.options.deletedAt? "deletedAt" column

/-- Whether the user asked to leave the column out. -/
def isSkipped (s : Settings) (column : String) : Bool :=
  s.skipFields.contains column

/-- Whether the ORM looks after the column by itself. -/
def isManaged (s : Settings) (column : String) : Bool :=
  s.options.timestamps? ≠ some false && (s.isTimestamp column || s.isSoftDelete column)

/-- Whether the column gets no attribute in its model. -/
def isOmitted (s : Settings) (column : String) : Bool :=
  s.isManaged column || s.isSkipped column

/-- The property name of a column. -/
def propertyName (s : Settings) (column : String) : String :=
  s.propertyStyle.restyle column

/-- Reads one member. -/
def setMember (key : String) (v : Json) (s : Settings) : Except DecodeError Settings :=
  match key with
  | "lang" => do return { s with language := ← Language.decode v }
  | "useDefine" => do return { s with useDefine := ← Decoder.bool v }
  | "spaces" => do return { s with spaces := ← Decoder.bool v }
  | "indentation" => do return { s with indentation := ← Decoder.natUpTo maxUInt64 "usize" v }
  | "caseModel" => do return { s with modelStyle := ← NameStyle.decode v }
  | "caseProp" => do return { s with propertyStyle := ← NameStyle.decode v }
  | "caseFile" => do return { s with fileStyle := ← NameStyle.decode v }
  | "singularize" => do return { s with singularize := ← Decoder.bool v }
  | "skipFields" => do return { s with skipFields := ← Decoder.list Decoder.text v }
  | "additional" => do return { s with options := ← ModelOptions.decode v }
  | "noIndexes" => do return { s with noIndexes := ← Decoder.bool v }
  | _ => .ok s

/-- Reads settings; what is not given has its default. -/
def decode : Decoder Settings :=
  Decoder.record "GeneratorOptions" [] {} setMember

/-- Writes all settings. -/
def toJson (s : Settings) : Json :=
  .obj [
    ("lang", s.language.toJson),
    ("useDefine", .bool s.useDefine),
    ("spaces", .bool s.spaces),
    ("indentation", .int s.indentation),
    ("caseModel", s.modelStyle.toJson),
    ("caseProp", s.propertyStyle.toJson),
    ("caseFile", s.fileStyle.toJson),
    ("singularize", .bool s.singularize),
    ("skipFields", .arr (s.skipFields.map .str)),
    ("additional", s.options.toJson),
    ("noIndexes", .bool s.noIndexes)]

end Settings
end SchemaModels
