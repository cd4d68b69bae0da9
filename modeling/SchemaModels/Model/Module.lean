import SchemaModels.Model.Event
import SchemaModels.Model.Scaffold

/-!
# Modules

The module of one table. Its content is worked out first: the typed section, if the language has
types, and the definition. The content is then written between the header and the footer of the
scaffold, and the name of the model takes the place of its token. The same content tells which
events writing it reports.
-/

namespace SchemaModels

open Naming

/-- The content of the module of a table. -/
structure ModuleContent where
  /-- The qualified name of the table. -/
  table : String
  typed : Option TypedSection
  definition : Definition
  deriving Inhabited

/-- The module generated for a table. -/
structure ModelModule where
  /-- The qualified name of the table. -/
  table : String
  model : String
  text : String
  events : List Event
  deriving DecidableEq, Inhabited

/-- The name of the model of a table: in the style for models, and kept clear of reserved words. -/
def Settings.modelName (s : Settings) (t : Table) : Except InflectionFailure String := do
  return avoidReserved s.language.isTyped (← s.modelStyle.apply s.singularize t.name.name)

/-- The typed section of the module of a table. -/
def Table.typedSection (ctx : Context) (relations : List Relation) (t : Table) :
    Except InflectionFailure TypedSection := do
  let mixins ← Mixins.of relations (ctx.indent 1) t.name.qualified
  TypedSection.of ctx.settings t mixins

namespace ModuleContent

/-- The content of the module of a table. -/
def of (ctx : Context) (relations : List Relation) (t : Table) :
    Except InflectionFailure ModuleContent := do
  let typed ← if ctx.settings.language.isTyped then
      (t.typedSection ctx relations).map some
    else .ok none
  return { table := t.name.qualified, typed := typed, definition := t.definition ctx }

/-- The text of the typed section, empty if there is none. -/
def renderTyped (ctx : Context) (c : ModuleContent) : String :=
  match c.typed with
  | some s => s.render ctx
  | none => ""

/-- The text of the module with the token for the name of the model. -/
def draft (ctx : Context) (c : ModuleContent) : String :=
  Scaffold.header ctx ++ c.renderTyped ctx ++ c.definition.render ctx ++ Scaffold.footer ctx

/-- The events that writing the module under the name of its model reports. -/
def events (model : String) (c : ModuleContent) : List Event :=
  (match c.typed with
    | some s => s.events
    | none => [])
  ++ c.definition.events c.table
  ++ [.modelRendered c.table model]

/-- The module that the content is written to under the name of its model. -/
def write (ctx : Context) (model : String) (c : ModuleContent) : ModelModule := {
  table := c.table
  model := model
  text := Text.replace modelToken model (c.draft ctx)
  events := c.events model }

end ModuleContent

/-- The module of a table. -/
def Table.generate (ctx : Context) (relations : List Relation) (t : Table) :
    Except InflectionFailure ModelModule := do
  let content ← ModuleContent.of ctx relations t
  let model ← ctx.settings.modelName t
  return content.write ctx model

end SchemaModels
