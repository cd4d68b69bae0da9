import SchemaModels.Json.Decode
import SchemaModels.Naming.Inflection
import SchemaModels.Naming.Words

/-!
# Styles of names

The styles in which models, properties and files can be named. A style has a one-letter code,
which is how it is stored, and a long name that is accepted as well.
-/

namespace SchemaModels.Naming

/-- A style of names. -/
inductive NameStyle where
  | asIs
  | camel
  | snake
  | pascal
  | upperSnake
  | kebab
  deriving DecidableEq, Inhabited

namespace NameStyle

/-- The one-letter code. -/
def code : NameStyle → String
  | asIs => "o"
  | camel => "c"
  | snake => "l"
  | pascal => "p"
  | upperSnake => "u"
  | kebab => "k"

/-- The long name. -/
def longName : NameStyle → String
  | asIs => "original"
  | camel => "camel"
  | snake => "snake"
  | pascal => "pascal"
  | upperSnake => "upper"
  | kebab => "kebab"

/-- All styles, in the order in which messages list them. -/
def all : List NameStyle := [asIs, camel, snake, pascal, upperSnake, kebab]

/-- The accepted names: for each style its code and its long name. -/
def known : List (String × NameStyle) :=
  all.flatMap fun s => [(s.code, s), (s.longName, s)]

/-- The style with the given code or long name. -/
def ofName? (name : String) : Option NameStyle :=
  (known.find? (·.1 == name)).map (·.2)

/-- Reads a style. -/
def decode : Decoder NameStyle :=
  Decoder.named known

/-- Writes a style by its code. -/
def toJson (s : NameStyle) : Json := .str s.code

/-- The name in this style. -/
def restyle (style : NameStyle) (name : String) : String :=
  if name = "" then ""
  else
    match style with
    | asIs => name
    | camel => camelCase name
    | snake => snakeCase name
    | pascal => pascalCase name
    | upperSnake => upperSnakeCase name
    | kebab => kebabCase name

/-- The name in this style, made singular first if asked. -/
def apply (style : NameStyle) (singular : Bool) (name : String) : Except InflectionFailure String :=
  if singular then (singularize name).map style.restyle else .ok (style.restyle name)

end NameStyle
end SchemaModels.Naming
