import SchemaModels.Model.Association
import SchemaModels.Naming.TableName

/-!
# The associations of a table

All associations of one table: the members they declare, and the types they need from the modules
of other tables. Needed tables and types are kept sorted, each once. A table never needs anything
from itself.
-/

namespace SchemaModels

open Naming

/-- The types that are needed from other modules, by the qualified name of their table. -/
abbrev NeededTypes := List (String × List String)

namespace NeededTypes

/-- Inserts a name into a sorted list unless it is there. -/
def insertName (name : String) : List String → List String
  | [] => [name]
  | n :: ns =>
    if name < n then name :: n :: ns
    else if name = n then n :: ns
    else n :: insertName name ns

/-- Inserts several names into a sorted list. -/
def insertNames (names : List String) (into : List String) : List String :=
  names.foldl (fun ns n => insertName n ns) into

/-- Adds names that are needed from a table. -/
def add (table : String) (names : List String) : NeededTypes → NeededTypes
  | [] => [(table, insertNames names [])]
  | (t, ns) :: rest =>
    if table < t then (table, insertNames names []) :: (t, ns) :: rest
    else if table = t then (t, insertNames names ns) :: rest
    else (t, ns) :: add table names rest

/-- What a list of associations needs. -/
def ofAssociations (as : List Association) : NeededTypes :=
  as.foldl (fun needed a => add a.other.table a.imports needed) []

end NeededTypes

/-- The table name by which relations know a table. An unqualified name that no relation has for
its child is given the schema of the first child that has a name. -/
def qualifyFor (relations : List Relation) (table : String) : String :=
  if table.toList.contains '.' || relations.any (·.child.table = table) then table
  else
    match relations.find? (·.child.table ≠ "") with
    | some r => TableName.join (TableName.split r.child.table).1 table
    | none => table

/-- The associations of a table, in the order of the relations. -/
def associationsOf (relations : List Relation) (table : String) : List Association :=
  let known := qualifyFor relations table
  relations.filterMap fun r => Association.of? r known

/-- The rendered members of the associations of a table, and what they need from other modules. -/
structure Mixins where
  text : String
  needed : NeededTypes
  deriving DecidableEq, Inhabited

/-- The members and needs of the associations of a table, each line after the given blanks. -/
def Mixins.of (relations : List Relation) (blanks table : String) :
    Except InflectionFailure Mixins := do
  let as := associationsOf relations table
  let texts ← as.mapM (·.render blanks)
  return {
    text := String.join texts
    needed := (NeededTypes.ofAssociations as).filter (·.1 ≠ qualifyFor relations table) }

end SchemaModels
