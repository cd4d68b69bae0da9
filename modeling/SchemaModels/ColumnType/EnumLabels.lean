import SchemaModels.ColumnType.Basic

/-!
# Labels of enum types

The labels of an enum, as literals of the generated code. Labels that are reported apart from the
type are quoted here; labels inside the type, as in `enum('a','b')`, are taken as they are
written.
-/

namespace SchemaModels

open Text

/-- What stands between the brackets of an enum type, if anything does. -/
def enumList? (sqlType : String) : Option (List Char) :=
  let cs := sqlType.toList
  if (cs.take 5).map Char.toLower = "enum(".toList then
    match (cs.drop 5).reverse with
    | ')' :: c :: inner => some (c :: inner).reverse
    | _ => none
  else none

/-- A label as a double-quoted literal. -/
def quotedLabel (label : String) : String :=
  "\"" ++ backslashBefore '"' label ++ "\""

/-- The literals of the labels of an enum. -/
def ColumnType.enumLiterals (t : ColumnType) : List String :=
  if t.labels.isEmpty then
    match enumList? t.sqlType with
    | some inner => splitOn ',' (String.ofList inner)
    | none => []
  else t.labels.map quotedLabel

end SchemaModels
