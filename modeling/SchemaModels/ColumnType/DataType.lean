import SchemaModels.ColumnType.EnumLabels

/-!
# ORM data types

The data type that a model declares for a column. `ColumnType.dataType?` finds it by an ordered
list of rules: the first rule whose test the type in lower case passes decides, even if it has no
answer, as for an array whose type of elements is not known.
-/

namespace SchemaModels

open Text

/-- The widths of integer types. -/
inductive IntegerWidth where
  | big
  | small
  | medium
  | tiny
  | standard
  deriving DecidableEq

/-- The types of which there are ranges. -/
inductive RangeBound where
  | decimal
  | integer
  | bigint
  | dateOnly
  | date
  deriving DecidableEq

/-- A data type of the ORM. Lengths, precisions and kinds of shapes are kept with their brackets
as they will be written, and are empty if there are none. -/
inductive DataType where
  | boolean
  | range (bound : RangeBound)
  | integer (width : IntegerWidth) (unsigned zerofill : Bool)
  | text (length : String)
  | string (length : String)
  | char (length : String)
  | real
  | dateOnly
  | date (length : String)
  | time
  | float (precision : String)
  | decimal (precision : String)
  | double (precision : String)
  | uuid
  | jsonb
  | json
  | geometry (shape : String)
  | geography (shape : String)
  | array (element : DataType)
  | blob
  | hstore
  | inet
  | cidr
  | macaddr
  | enum (literals : List String)
  deriving Inhabited

/-- The name of an integer type. -/
def IntegerWidth.name : IntegerWidth → String
  | big => "BIGINT"
  | small => "SMALLINT"
  | medium => "MEDIUMINT"
  | tiny => "TINYINT"
  | standard => "INTEGER"

/-- The name of the type a range is over. -/
def RangeBound.name : RangeBound → String
  | decimal => "DECIMAL"
  | integer => "INTEGER"
  | bigint => "BIGINT"
  | dateOnly => "DATEONLY"
  | date => "DATE"

/-- The expression for a data type in the generated code. -/
def DataType.render : DataType → String
  | boolean => "DataTypes.BOOLEAN"
  | range b => "DataTypes.RANGE(DataTypes." ++ b.name ++ ")"
  | integer w unsigned zerofill =>
    "DataTypes." ++ w.name ++ (if unsigned then ".UNSIGNED" else "")
      ++ (if zerofill then ".ZEROFILL" else "")
  | text n => "DataTypes.TEXT" ++ n
  | string n => "DataTypes.STRING" ++ n
  | char n => "DataTypes.CHAR" ++ n
  | real => "DataTypes.REAL"
  | dateOnly => "DataTypes.DATEONLY"
  | date n => "DataTypes.DATE" ++ n
  | time => "DataTypes.TIME"
  | float p => "DataTypes.FLOAT" ++ p
  | decimal p => "DataTypes.DECIMAL" ++ p
  | double p => "DataTypes.DOUBLE" ++ p
  | uuid => "DataTypes.UUID"
  | jsonb => "DataTypes.JSONB"
  | json => "DataTypes.JSON"
  | geometry s => "DataTypes.GEOMETRY" ++ s
  | geography s => "DataTypes.GEOGRAPHY" ++ s
  | array e => "DataTypes.ARRAY(" ++ e.render ++ ")"
  | blob => "DataTypes.BLOB"
  | hstore => "DataTypes.HSTORE"
  | inet => "DataTypes.INET"
  | cidr => "DataTypes.CIDR"
  | macaddr => "DataTypes.MACADDR"
  | enum ls => "DataTypes.ENUM(" ++ String.intercalate "," ls ++ ")"

/-- `(n)` at the front of the characters. -/
def lengthAt? : List Char → Option (List Char)
  | '(' :: cs =>
    match cs.takeWhile isDecimalDigit, cs.dropWhile isDecimalDigit with
    | d :: ds, ')' :: _ => some ('(' :: d :: ds ++ [')'])
    | _, _ => none
  | _ => none

/-- `(p,s)` at the front of the characters. -/
def precisionAt? : List Char → Option (List Char)
  | '(' :: cs =>
    match cs.takeWhile isDecimalDigit, cs.dropWhile isDecimalDigit with
    | p :: ps, ',' :: rest =>
      match rest.takeWhile isDecimalDigit, rest.dropWhile isDecimalDigit with
      | s :: ss, ')' :: _ => some ('(' :: p :: ps ++ ',' :: s :: ss ++ [')'])
      | _, _ => none
    | _, _ => none
  | _ => none

/-- What `find` finds at the first place where it finds something; empty if it never does. -/
def firstFound (find : List Char → Option (List Char)) : List Char → List Char
  | [] => []
  | c :: cs =>
    match find (c :: cs) with
    | some found => found
    | none => firstFound find cs

/-- The first `(n)` in a type. -/
def lengthIn (t : String) : String :=
  String.ofList (firstFound lengthAt? t.toList)

/-- The first `(p,s)` in a type. -/
def precisionIn (t : String) : String :=
  String.ofList (firstFound precisionAt? t.toList)

/-- The width that an integer type begins with. -/
def widthOf (t : String) : IntegerWidth :=
  if beginsWith "bigint" t then .big
  else if beginsWith "smallint" t then .small
  else if beginsWith "mediumint" t then .medium
  else if beginsWith "tinyint" t then .tiny
  else .standard

/-- The integer type with its modifiers. -/
def integerOf (t : String) : DataType :=
  .integer (widthOf t) (contains "unsigned" t) (contains "zerofill" t)

/-- The type of elements in brackets, which tells the kind of a spatial column. -/
def ColumnType.shape (t : ColumnType) : String :=
  match t.elementType with
  | some e => "(" ++ e ++ ")"
  | none => ""

/-- Whether the type is `enum`, alone or with a bracket on one line. -/
def isEnumType (t : String) : Bool :=
  t == "enum" ||
    (beginsWith "enum(" t && endsWith ")" t && !((t.toList.drop 5).dropLast.contains '\n'))

/-- What a rule may look at: the type of the column, the same in lower case, and the data type of
its elements. -/
structure TypeReading where
  column : ColumnType
  lowered : String
  element : Option DataType

/-- A rule: the types it is for, and the data type it gives them. -/
structure TypeRule where
  applies : String → Bool
  dataType : TypeReading → Option DataType

/-- A rule that gives one data type. -/
def TypeRule.always (applies : String → Bool) (t : DataType) : TypeRule :=
  ⟨applies, fun _ => some t⟩

/-- A rule that looks at the type in lower case. -/
def TypeRule.ofLowered (applies : String → Bool) (f : String → DataType) : TypeRule :=
  ⟨applies, fun r => some (f r.lowered)⟩

/-- The rules, earlier ones first. Nothing that begins with "float8" gets as far as the rule for it,
since it begins with "float" as well. -/
def typeRules : List TypeRule := [
  .always (["boolean", "bit(1)", "bit", "tinyint(1)"].contains ·) .boolean,
  .always (· == "numrange") (.range .decimal),
  .always (· == "int4range") (.range .integer),
  .always (· == "int8range") (.range .bigint),
  .always (· == "daterange") (.range .dateOnly),
  .always (["tsrange", "tstzrange"].contains ·) (.range .date),
  .ofLowered (beginsWithAny ["bigint", "smallint", "mediumint", "tinyint", "int"]) integerOf,
  .always (["varchar(max)", "nvarchar(max)"].contains ·) (.text ""),
  .ofLowered (fun t => contains "varchar" t || contains "string" t || contains "varying" t)
    fun t => .string (lengthIn t),
  .ofLowered (beginsWithAny ["char", "nchar"]) fun t => .char (lengthIn t),
  .always (beginsWith "real") .real,
  .ofLowered (endsWith "text") fun t => .text (lengthIn t),
  .always (· == "date") .dateOnly,
  .ofLowered (beginsWithAny ["date", "timestamp", "year"]) fun t => .date (lengthIn t),
  .always (beginsWith "time") .time,
  .ofLowered (beginsWithAny ["float", "float4"]) fun t => .float (precisionIn t),
  .ofLowered (beginsWithAny ["decimal", "numeric"]) fun t => .decimal (precisionIn t),
  .always (beginsWith "money") (.decimal "(19,4)"),
  .always (beginsWith "smallmoney") (.decimal "(10,4)"),
  .ofLowered (beginsWithAny ["float8", "double"]) fun t => .double (precisionIn t),
  .always (fun t => beginsWith "uuid" t || contains "uniqueidentifier" t) .uuid,
  .always (beginsWith "jsonb") .jsonb,
  .always (beginsWith "json") .json,
  ⟨beginsWith "geometry", fun r => some (.geometry r.column.shape)⟩,
  ⟨beginsWith "geography", fun r => some (.geography r.column.shape)⟩,
  ⟨beginsWith "array", fun r => r.element.map .array⟩,
  .always (fun t => contains "binary" t || contains "image" t || contains "blob" t
    || contains "bytea" t) .blob,
  .always (beginsWith "hstore") .hstore,
  .always (beginsWith "inet") .inet,
  .always (beginsWith "cidr") .cidr,
  .always (beginsWith "oid") (.integer .standard false false),
  .always (beginsWith "macaddr") .macaddr,
  ⟨isEnumType, fun r => some (.enum r.column.enumLiterals)⟩]

namespace ColumnType

/-- The data type by the first rule that applies, given that of the elements. -/
def dataTypeWith (element : Option DataType) (t : ColumnType) : Option DataType :=
  let lowered := t.lowered
  (typeRules.find? (·.applies lowered)).bind (·.dataType ⟨t, lowered, element⟩)

/-- The type of the elements as the type of a column of its own. It shares the labels, and has no
elements in turn. -/
def element (t : ColumnType) : Option ColumnType :=
  t.elementType.map fun e => { sqlType := e, labels := t.labels }

/-- The data type of a column; none if no rule applies, or if the one that applies has no answer.
-/
def dataType? (t : ColumnType) : Option DataType :=
  dataTypeWith (t.element.bind (dataTypeWith none)) t

end ColumnType
end SchemaModels
