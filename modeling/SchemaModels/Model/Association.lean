import SchemaModels.Naming.Inflection
import SchemaModels.Schema.Relation

/-!
# Associations

A relation as one of its tables sees it. Typed models declare the members by which the associated
models are reached; these name types of the other model, which have to be imported from its
module.
-/

namespace SchemaModels

open Naming Text

/-- How a table sees a relation. -/
inductive AssociationKind where
  /-- The table holds the foreign key. -/
  | belongsTo
  /-- The table is referred to by at most one row. -/
  | hasOne
  /-- The table is referred to by any number of rows. -/
  | hasMany
  /-- The table is the parent of a many-to-many relation. -/
  | belongsToMany
  deriving DecidableEq, Inhabited

/-- A relation as seen by one of its tables. -/
structure Association where
  kind : AssociationKind
  relation : Relation
  deriving DecidableEq, Inhabited

/-- A member that a class declares. -/
structure Declaration where
  name : String
  type : String
  deriving DecidableEq, Inhabited

namespace Association

/-- The relation as `table` sees it, if it concerns that table. A many-to-many relation is seen by
the parent only, and a relation of a table with itself by the child only. -/
def of? (r : Relation) (table : String) : Option Association :=
  if r.isManyToMany then
    if r.parent.table = table then some ⟨.belongsToMany, r⟩ else none
  else if r.child.table = table then some ⟨.belongsTo, r⟩
  else if r.parent.table = table then
    some ⟨if r.isOne then .hasOne else .hasMany, r⟩
  else none

/-- The end of the relation that the table sees on the other side. -/
def other (a : Association) : Endpoint :=
  match a.kind with
  | .belongsTo => a.relation.parent
  | _ => a.relation.child

/-- The end of the relation on the side of the table itself. -/
def own (a : Association) : Endpoint :=
  match a.kind with
  | .belongsTo => a.relation.child
  | _ => a.relation.parent

/-- The types of the other module that the declarations name. -/
def imports (a : Association) : List String :=
  let model := a.other.model
  match a.kind with
  | .hasOne => [model, model ++ "Id", model ++ "CreationAttributes"]
  | _ => [model, model ++ "Id"]

/-- The word for the association. -/
def word (a : Association) : String :=
  match a.kind with
  | .belongsTo => "belongsTo"
  | .hasOne => "hasOne"
  | .hasMany => "hasMany"
  | .belongsToMany => "belongsToMany"

/-- The beginning of the names of the association types. -/
def typeStem (a : Association) : String :=
  match a.kind with
  | .belongsTo => "BelongsTo"
  | .hasOne => "HasOne"
  | .hasMany => "HasMany"
  | .belongsToMany => "BelongsToMany"

/-- The comment line that says which models are associated, and by which keys. -/
def comment (a : Association) : String :=
  let line := "// " ++ a.own.model ++ " " ++ a.word ++ " " ++ a.other.model ++ " via "
    ++ a.relation.parent.key
  match a.kind with
  | .belongsToMany => line ++ " and " ++ a.relation.child.key
  | _ => line

/-- The type of an accessor that takes the associated model. -/
def accessor (a : Association) (action : String) : String :=
  "Sequelize." ++ a.typeStem ++ action ++ "Mixin<" ++ a.other.model ++ ">"

/-- The type of an accessor that takes the associated model or its key. -/
def keyAccessor (a : Association) (action : String) : String :=
  "Sequelize." ++ a.typeStem ++ action ++ "Mixin<" ++ a.other.model ++ ", " ++ a.other.model
    ++ "Id>"

/-- The members for one associated model. -/
def singleDeclarations (a : Association) : List Declaration :=
  let property := a.other.property
  let name := upperFirst property
  [⟨property, a.other.model⟩,
    ⟨"get" ++ name, a.accessor "GetAssociation"⟩,
    ⟨"set" ++ name, a.keyAccessor "SetAssociation"⟩,
    ⟨"create" ++ name, a.accessor "CreateAssociation"⟩]

/-- The members for any number of associated models, given the singular and the plural of the
property. -/
def collectionDeclarations (a : Association) (singular plural : String) : List Declaration :=
  let one := upperFirst singular
  let many := upperFirst plural
  [⟨plural, a.other.model ++ "[]"⟩,
    ⟨"get" ++ many, a.accessor "GetAssociations"⟩,
    ⟨"set" ++ many, a.keyAccessor "SetAssociations"⟩,
    ⟨"add" ++ one, a.keyAccessor "AddAssociation"⟩,
    ⟨"add" ++ many, a.keyAccessor "AddAssociations"⟩,
    ⟨"create" ++ one, a.accessor "CreateAssociation"⟩,
    ⟨"remove" ++ one, a.keyAccessor "RemoveAssociation"⟩,
    ⟨"remove" ++ many, a.keyAccessor "RemoveAssociations"⟩,
    ⟨"has" ++ one, a.keyAccessor "HasAssociation"⟩,
    ⟨"has" ++ many, a.keyAccessor "HasAssociations"⟩,
    ⟨"count" ++ many, "Sequelize." ++ a.typeStem ++ "CountAssociationsMixin"⟩]

/-- The members that the association declares. -/
def declarations (a : Association) : Except InflectionFailure (List Declaration) :=
  match a.kind with
  | .belongsTo | .hasOne => .ok a.singleDeclarations
  | .hasMany | .belongsToMany => do
    let singular ← singularize a.other.property
    let plural ← pluralize a.other.property
    return a.collectionDeclarations singular plural

end Association

/-- The line of a declared member. -/
def Declaration.render (d : Declaration) : String :=
  d.name ++ "!: " ++ d.type ++ ";"

namespace Association

/-- The lines of the association, each after the given blanks. -/
def render (blanks : String) (a : Association) : Except InflectionFailure String := do
  let lines := a.comment :: (← a.declarations).map (·.render)
  return unlines (lines.map (blanks ++ ·))

end Association
end SchemaModels
