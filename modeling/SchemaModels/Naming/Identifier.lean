import SchemaModels.Text.CharClass

/-!
# Identifiers of generated code

Which names can stand in script code as they are, and what is done with those that cannot: a
property name is quoted, and a model name that is a reserved word gets an underscore.
-/

namespace SchemaModels.Naming

open Text

/-- The words that script code reserves. -/
def reservedWords : List String := [
  "await", "break", "case", "catch", "class", "const", "continue", "debugger", "default",
  "delete", "do", "else", "enum", "export", "extends", "false", "finally", "for", "function",
  "if", "implements", "import", "in", "instanceof", "interface", "let", "new", "null",
  "package", "private", "protected", "public", "return", "static", "super", "switch", "this",
  "throw", "true", "try", "typeof", "var", "void", "while", "with", "yield"]

/-- The global types of typed script code that a model must not hide. -/
def globalTypes : List String := [
  "Array", "Boolean", "Date", "Error", "Function", "Map", "Number", "Object", "Omit",
  "Partial", "Pick", "Promise", "Readonly", "Record", "RegExp", "Required", "Set", "String",
  "Symbol"]

/-- A character that an identifier may start with. -/
def startsIdentifier (c : Char) : Bool :=
  c.isAlpha || c == '_' || c == '$'

/-- A character that an identifier may have after the first. -/
def continuesIdentifier (c : Char) : Bool :=
  c.isAlphanum || c == '_' || c == '$'

/-- Whether a name is an identifier of ASCII letters, digits, underscores and dollar signs. -/
def isIdentifier (name : String) : Bool :=
  match name.toList with
  | [] => false
  | c :: cs => startsIdentifier c && cs.all continuesIdentifier

/-- The name as a property key: as it is if it is an identifier, else between single quotes. -/
def propertyKey (name : String) : String :=
  if isIdentifier name then name else "'" ++ name ++ "'"

/-- Whether a name collides with a reserved word or, in typed code, with a global type. -/
def isReserved (typed : Bool) (name : String) : Bool :=
  reservedWords.contains name || (typed && globalTypes.contains name)

/-- The name, with an underscore appended if it is reserved. -/
def avoidReserved (typed : Bool) (name : String) : String :=
  if isReserved typed name then name ++ "_" else name

end SchemaModels.Naming
