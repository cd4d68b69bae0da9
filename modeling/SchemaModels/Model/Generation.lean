import SchemaModels.Model.Module

/-!
# Generation

The modules of all tables of a database. Tables of one qualified name share an entry: it stands
where the first of them stands, and holds the text of the last.
-/

namespace SchemaModels

open Naming

namespace Database

/-- The modules of the tables, in order. -/
def modules (ctx : Context) (d : Database) : Except InflectionFailure (List ModelModule) :=
  d.tables.mapM (·.generate ctx d.relations)

/-- The texts of all modules, by the qualified names of their tables. -/
def generate (ctx : Context) (d : Database) : Except InflectionFailure (OrderedMap String) := do
  return OrderedMap.ofList ((← d.modules ctx).map fun m => (m.table, m.text))

/-- The events of generating all modules. -/
def generationEvents (ctx : Context) (d : Database) : Except InflectionFailure (List Event) := do
  return (← d.modules ctx).flatMap (·.events)

/-- The names of the models, in the order of the tables. -/
def modelNames (s : Settings) (d : Database) : Except InflectionFailure (List String) :=
  d.tables.mapM s.modelName

end Database
end SchemaModels
