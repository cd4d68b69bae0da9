import SchemaModels.ColumnType.EnumLabels

/-!
# Types of class members

The script type of the member that holds a column. A type that is not known becomes `any`, and why
it did is kept, so that it can be reported.
-/

namespace SchemaModels

/-- Why a member has the type `any`. -/
inductive AnyReason where
  /-- The type is an enum without labels. -/
  | enumWithoutLabels
  /-- The type belongs to no family. -/
  | unknownType
  deriving DecidableEq

/-- The script type of a class member. -/
inductive MemberType where
  | number
  | boolean
  | date
  | string
  | object
  /-- One of the literals. -/
  | union (literals : List String)
  | array (element : MemberType)
  /-- Anything, for the given reason; `type` is the column type in lower case. -/
  | any (reason : AnyReason) (type : String)
  deriving Inhabited

/-- The type expression. -/
def MemberType.render : MemberType → String
  | number => "number"
  | boolean => "boolean"
  | date => "Date"
  | string => "string"
  | object => "object"
  | union ls => String.intercalate " | " ls
  | array e => e.render ++ "[]"
  | any _ _ => "any"

/-- The unknown part of a type: the reason and the column type. -/
def MemberType.unknown? : MemberType → Option (AnyReason × String)
  | array e => e.unknown?
  | any reason type => some (reason, type)
  | _ => none

namespace ColumnType

open TypeFamily

/-- The member type of a column that is no array. -/
def plainMemberType (t : ColumnType) : MemberType :=
  let lowered := t.lowered
  if isNumber lowered then .number
  else if isBoolean lowered then .boolean
  else if isDate lowered then .date
  else if isString lowered then .string
  else if isEnum lowered then
    if t.enumLiterals.isEmpty then .any .enumWithoutLabels lowered else .union t.enumLiterals
  else if isJson lowered then .object
  else .any .unknownType lowered

/-- The member type of a column, given that of its elements. -/
def memberTypeWith (element : MemberType) (t : ColumnType) : MemberType :=
  if isArray t.lowered then .array element else t.plainMemberType

/-- The type of the elements as the type of a column of its own; if there is none, the empty type.
-/
def elementOrEmpty (t : ColumnType) : ColumnType :=
  { sqlType := t.elementType.getD "", labels := t.labels }

/-- The member type of a column. The elements of its elements have the empty type, which is no
array. -/
def memberType (t : ColumnType) : MemberType :=
  let element := t.elementOrEmpty
  t.memberTypeWith (element.memberTypeWith element.elementOrEmpty.plainMemberType)

end ColumnType
end SchemaModels
