import SchemaModels.Naming.Inflection.Rules
import SchemaModels.Text.Case
import SchemaModels.Text.Search

/-!
# Singular and plural forms

A name as a whole is taken to the other form: by the irregular pairs, else left alone if it is
uncountable, else by the last rule whose ending it has. What is put in takes on the case of the
name. Text whose first character is outside ASCII cannot take on the case of a capitalized name
that has lower-case letters too; inflection then fails, and the failure is a value that callers
pass on.
-/

namespace SchemaModels.Naming

open Text

/-- Inflection of `word` had to recase `text`, which starts with a character outside ASCII, after
a capitalized word. -/
structure InflectionFailure where
  word : String
  text : String
  deriving DecidableEq

/-- The text in the case of the word: all lower case or all upper case if the word is, as it is
after a capitalized word, and otherwise in lower case. -/
def inCaseOf (word text : String) : Except InflectionFailure String :=
  if word = text then .ok text
  else if word = lowercase word then .ok (lowercase text)
  else if word = uppercase word then .ok (uppercase text)
  else
    match text.toList with
    | [] => .ok ""
    | c :: _ =>
      if word.toList.head?.any isUppercase then
        if isAscii c then .ok text else .error ⟨word, text⟩
      else .ok (lowercase text)

/-- Drops every dollar sign together with the character after it, if there is one. -/
def dropReferences : List Char → List Char
  | [] => []
  | ['$'] => []
  | '$' :: _ :: cs => dropReferences cs
  | c :: cs => c :: dropReferences cs

/-- Puts the texts in for the references `$i`, `$(i+1)`, … one after the other, each in the case
of the word. -/
def fillReferences (word : String) :
    (i : Nat) → List (List Char) → List Char → Except InflectionFailure (List Char)
  | _, [], r => .ok r
  | i, text :: texts, r => do
    let t ← inCaseOf word (String.ofList text)
    fillReferences word (i + 1) texts (replaceFrom ('$' :: Nat.toDigits 10 i) t.toList 0 r)

/-- The word with its ending replaced by the rule, if it has the ending. The references left over
are dropped from the whole result. -/
def EndingRule.inflect? (rule : EndingRule) (word : String) :
    Option (Except InflectionFailure String) :=
  (rule.ending.findAtEnd none word.toList).map fun (front, found) => do
    let r ← inCaseOf word rule.replacement
    let r ← fillReferences word 0 (found.taken :: found.groups) r.toList
    return String.ofList (dropReferences (front ++ r))

/-- The form by the last of the rules that applies; the word itself if none does. -/
def byEnding (rules : List EndingRule) (word : String) : Except InflectionFailure String :=
  ((rules ++ uncountableEndings).reverse.findSome? (·.inflect? word)).getD (.ok word)

/-- The plural of an irregular singular. -/
def irregularPlural? (singular : String) : Option String :=
  (irregularPairs.reverse.find? (·.1 == singular)).map (·.2)

/-- The singular of an irregular plural. -/
def irregularSingular? (plural : String) : Option String :=
  (irregularPairs.reverse.find? (·.2 == plural)).map (·.1)

/-- The form of a word to which `known` and `other` map irregular words: `known` finds those that
have the wanted form already, `other` takes those of the other form to it. -/
def inflect (known other : String → Option String) (rules : List EndingRule) (word : String) :
    Except InflectionFailure String :=
  let token := lowercase word
  if (known token).isSome then inCaseOf word token
  else
    match other token with
    | some form => inCaseOf word form
    | none => if uncountableWords.contains token then .ok word else byEnding rules word

/-- The singular form of a name; the empty name stays empty. -/
def singularize (name : String) : Except InflectionFailure String :=
  if name = "" then .ok "" else inflect irregularPlural? irregularSingular? singularEndings name

/-- The plural form of a name; the empty name stays empty. -/
def pluralize (name : String) : Except InflectionFailure String :=
  if name = "" then .ok "" else inflect irregularSingular? irregularPlural? pluralEndings name

end SchemaModels.Naming
