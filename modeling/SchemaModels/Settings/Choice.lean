import SchemaModels.Naming.NameStyle
import SchemaModels.Settings.Language

/-!
# Choices by name

Languages and styles of names as a user writes them, with a message for names that are not known.
-/

namespace SchemaModels

/-- A name that stands for no choice. -/
inductive ChoiceError where
  | unknownLanguage (name : String)
  | unknownStyle (name : String)
  deriving DecidableEq, Inhabited

/-- The wording of the error. -/
def ChoiceError.message : ChoiceError → String
  | unknownLanguage name =>
    "unknown output language: " ++ name ++ " (expected es5, es6, esm or ts)"
  | unknownStyle name =>
    "unknown naming case: " ++ name ++ " (expected one of o, c, l, p, u, k)"

/-- The language with the given name. -/
def Language.choose (name : String) : Except ChoiceError Language :=
  match Language.ofName? name with
  | some l => .ok l
  | none => .error (.unknownLanguage name)

/-- The style with the given code or long name. -/
def Naming.NameStyle.choose (name : String) : Except ChoiceError Naming.NameStyle :=
  match Naming.NameStyle.ofName? name with
  | some s => .ok s
  | none => .error (.unknownStyle name)

end SchemaModels
