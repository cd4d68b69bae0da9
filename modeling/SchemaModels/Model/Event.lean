import SchemaModels.Model.Definition
import SchemaModels.Model.TypedSection

/-!
# Events of a generation run

What a run reports on its way: column types that it does not know, and models that are complete.
The parts of a module tell which events writing them reports.
-/

namespace SchemaModels

/-- How serious an event is. -/
inductive Level where
  | warn
  | debug
  deriving DecidableEq, Inhabited

/-- The name of a level. -/
def Level.name : Level → String
  | warn => "WARN"
  | debug => "DEBUG"

/-- An event of a run. -/
inductive Event where
  /-- A member got the type `any`; `type` is the column type in lower case. -/
  | anyMember (reason : AnyReason) (type : String)
  /-- A column was declared with the type of the database. -/
  | verbatimType (table column type : String)
  /-- The module of a table is complete. -/
  | modelRendered (table model : String)
  deriving DecidableEq

namespace Event

/-- How serious the event is. -/
def level : Event → Level
  | modelRendered _ _ => .debug
  | _ => .warn

/-- The message of the event. -/
def message : Event → String
  | anyMember .enumWithoutLabels _ => "enum without values, using any"
  | anyMember .unknownType _ => "missing TypeScript type, using any"
  | verbatimType _ _ _ => "unmapped column type, emitting raw type string"
  | modelRendered _ _ => "rendered model"

/-- The named values of the event. -/
def fields : Event → List (String × String)
  | anyMember _ t => [("field_type", t)]
  | verbatimType table column t => [("table", table), ("field", column), ("field_type", t)]
  | modelRendered table model => [("table", table), ("model", model)]

end Event

/-- The event that writing a member reports, if its type has an unknown part. -/
def Member.event? (m : Member) : Option Event :=
  m.type.unknown?.map fun u => .anyMember u.1 u.2

/-- The events that writing a typed section reports: its members are written twice, in the
interface and in the class. -/
def TypedSection.events (s : TypedSection) : List Event :=
  s.members.filterMap (·.event?) ++ s.members.filterMap (·.event?)

/-- The events that writing an attribute block reports: one for each type of the database that it
declares. -/
def AttributeBlock.events (table : String) (b : AttributeBlock) : List Event :=
  b.attributes.filterMap fun
    | .type (.verbatim sqlType) => some (.verbatimType table b.column sqlType)
    | _ => none

/-- The events that writing a definition reports. -/
def Definition.events (table : String) (d : Definition) : List Event :=
  d.blocks.flatMap (·.events table)

end SchemaModels
