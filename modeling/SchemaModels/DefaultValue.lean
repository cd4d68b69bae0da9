import SchemaModels.ColumnType.Basic
import SchemaModels.Schema.Dialect

/-!
# Default values

How the default that a database reports for a column is declared in a model. A text is escaped,
freed from the brackets around it, and then read by the type of the column: as a truth value, an
array, a call of a database function, an expression for the database, or a plain text.
-/

namespace SchemaModels

open Text

/-- A default as a model declares it. -/
inductive DefaultValue where
  /-- Written as it is: numbers, JSON, and values that are no texts. -/
  | raw (text : String)
  | boolean (b : Bool)
  /-- The elements, separated by commas and quoted where they have to be. -/
  | array (items : String)
  /-- A new random identifier. -/
  | uuidV4
  /-- A database function that is called without arguments. -/
  | function (name : String)
  /-- An expression that the database evaluates. -/
  | literal (expression : String)
  /-- A text that is escaped already. -/
  | quoted (text : String)
  deriving DecidableEq, Inhabited

namespace DefaultValue

/-- The expression in the generated code. -/
def render : DefaultValue → String
  | raw s => s
  | boolean b => if b then "true" else "false"
  | array items => "[" ++ items ++ "]"
  | uuidV4 => "DataTypes.UUIDV4"
  | function name => "Sequelize.Sequelize.fn('" ++ backslashBefore '\'' name ++ "')"
  | literal e => "Sequelize.Sequelize.literal('" ++ backslashBefore '\'' e ++ "')"
  | quoted s => "\"" ++ s ++ "\""

/-- The words for the current time, which are no plain texts in a column for times. -/
def currentTimeWords : List String :=
  ["current_timestamp", "current_date", "current_time", "localtime", "localtimestamp"]

/-- Whether the engine reports this default for a column that has none. -/
def meansNone (d : Dialect) : Value → Bool
  | .text s => d = .mssql && (eqIgnoringAsciiCase s "(newid())" || s == "(NULL)" || s == "NULL")
  | _ => false

/-- Removes an opening bracket at the front together with a closing one at the end, at most
`count` times. -/
def stripBracketsUpTo : (count : Nat) → List Char → List Char
  | 0, cs => cs
  | count + 1, cs =>
    match cs with
    | '(' :: rest =>
      match rest.getLast? with
      | some ')' => stripBracketsUpTo count rest.dropLast
      | _ => cs
    | _ => cs

/-- Removes all brackets around a text: `((0))` becomes `0`. -/
def stripBrackets (s : String) : String :=
  String.ofList (stripBracketsUpTo s.length s.toList)

/-- Whether a text stands for true: it has a `1`, or `true` in any case. -/
def isTruthy (s : String) : Bool :=
  contains "1" s || occurs "true".toList (s.toList.map Char.toLower)

/-- Whether a text ends in the call of a function without arguments: a character of a word
followed by `()`. -/
def endsInCall (s : String) : Bool :=
  match s.toList.reverse with
  | ')' :: '(' :: c :: _ => isWordChar c
  | _ => false

/-- Removes every `()` at the end of the reversed characters. -/
def dropCallsReversed : List Char → List Char
  | ')' :: '(' :: cs => dropCallsReversed cs
  | cs => cs

/-- The text without the `()` at its end. -/
def dropCalls (s : String) : String :=
  String.ofList (dropCallsReversed s.toList.reverse).reverse

/-- The text without one opening brace at the front and one closing brace at the end. -/
def dropBraces (s : String) : String :=
  let cs := match s.toList with
    | '\x7b' :: rest => rest
    | cs => cs
  String.ofList (match cs.reverse with
    | '\x7d' :: rest => rest.reverse
    | _ => cs)

/-- The elements of an array default, quoted one by one if their type is a type of texts. -/
def arrayItems (elementType : Option String) (s : String) : String :=
  let items := dropBraces s
  if items ≠ "" && TypeFamily.isString (lowercase (elementType.getD "")) then
    String.intercalate "," ((splitOn ',' items).map fun item => "\"" ++ item ++ "\"")
  else items

/-- Reads a default that is escaped and free from brackets, for a column type in lower case. -/
def ofText (type : String) (elementType : Option String) (s : String) : DefaultValue :=
  if ["bit(1)", "bit", "boolean"].contains type then boolean (isTruthy s)
  else if TypeFamily.isArray type then array (arrayItems elementType s)
  else if beginsWith "json" type then raw s
  else if type = "uuid" && (s = "gen_random_uuid()" || s = "uuid_generate_v4()") then uuidV4
  else if endsInCall s then function (dropCalls s)
  else if TypeFamily.isNumber type then
    if contains "()" s then literal s else raw s
  else if contains "()" s then literal s
  else if (beginsWith "date" type || beginsWith "timestamp" type)
      && currentTimeWords.contains (lowercase s) then literal s
  else quoted s

/-- The default to declare for a reported one. There is none if the database reports none or
generates the value itself. -/
def ofReported (reported : Option Value) (sqlType : String) (elementType : Option String)
    (d : Dialect) (isSerial : Bool) : Option DefaultValue :=
  match reported with
  | none => none
  | some v =>
    if meansNone d v || isSerial then none
    else
      match v with
      | .text s =>
        some (ofText (lowercase sqlType) elementType (stripBrackets (scriptEscaped s)))
      | v => some (raw v.display)

end DefaultValue
end SchemaModels
