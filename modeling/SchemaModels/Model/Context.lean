import SchemaModels.Schema.Dialect
import SchemaModels.Settings.Basic

/-!
# The context of a generation run

What every part of a module is rendered with: the settings, the database engine, and the token
that stands for the name of the model until the whole module is put together.
-/

namespace SchemaModels

/-- The settings of a run and the engine the schema comes from. -/
structure Context where
  settings : Settings
  dialect : Dialect
  deriving DecidableEq, Inhabited

/-- The blanks before a line at the given depth. -/
def Context.indent (ctx : Context) (depth : Nat) : String :=
  ctx.settings.indent.level depth

/-- Stands for the name of the model while its module is put together. -/
def modelToken : String := "#TABLE#"

end SchemaModels
