import SchemaModels.Model.Context
import SchemaModels.Schema.Index

/-!
# The indexes of a model

The list of indexes among the options of a model. Names, collations and orders are written as the
database has them.
-/

namespace SchemaModels

/-- The kinds of index that are declared by `type`; anything else is a method of access and is
declared by `using`. -/
def indexKinds : List String := ["UNIQUE", "FULLTEXT", "SPATIAL"]

namespace IndexPart

/-- The entries of a part of an index: ascending order is not mentioned. -/
def entries (p : IndexPart) : List String :=
  ["name: \"" ++ p.column ++ "\""]
  ++ (p.collate.map fun c => "collate: \"" ++ c ++ "\"").toList
  ++ (p.length.map fun n => "length: " ++ toString n).toList
  ++ ((p.order.filter (· ≠ "ASC")).map fun o => "order: \"" ++ o ++ "\"").toList

/-- The line of a part of an index. -/
def render (ctx : Context) (p : IndexPart) : String :=
  ctx.indent 5 ++ "\x7b " ++ String.intercalate ", " p.entries ++ " \x7d,"

end IndexPart

namespace Index

/-- The key under which the kind of an index is declared. -/
def kindKey (kind : String) : String :=
  if indexKinds.contains kind then "type" else "using"

/-- The lines of an index. -/
def lines (ctx : Context) (i : Index) : List String :=
  [ctx.indent 3 ++ "\x7b"]
  ++ (i.name.map fun n => ctx.indent 4 ++ "name: \"" ++ n ++ "\",").toList
  ++ (if i.unique then [ctx.indent 4 ++ "unique: true,"] else [])
  ++ (i.kind.map fun k => ctx.indent 4 ++ kindKey k ++ ": \"" ++ k ++ "\",").toList
  ++ [ctx.indent 4 ++ "fields: ["]
  ++ i.parts.map (·.render ctx)
  ++ [ctx.indent 4 ++ "]", ctx.indent 3 ++ "\x7d,"]

/-- The option that lists the indexes, none if there are no indexes. -/
def renderList? (ctx : Context) (indexes : List Index) : Option String :=
  if indexes.isEmpty then none
  else
    some (String.intercalate "\n" (
      [ctx.indent 2 ++ "indexes: ["] ++ indexes.flatMap (·.lines ctx) ++ [ctx.indent 2 ++ "]"]))

end Index
end SchemaModels
