import SchemaModels.Json.Decode

/-!
# Output languages

The four kinds of module that can be generated. The oldest one defines a model by a factory
function; the others wrap the definition in a class, and the last one adds types.
-/

namespace SchemaModels

/-- The script language of the generated modules. -/
inductive Language where
  /-- A factory function in a CommonJS module. -/
  | es5
  /-- A class in a CommonJS module. -/
  | es6
  /-- A class in an ES module. -/
  | esm
  /-- A class with typed attributes and association members. -/
  | ts
  deriving DecidableEq, Inhabited

namespace Language

/-- The name under which the language is stored. -/
def name : Language → String
  | es5 => "es5"
  | es6 => "es6"
  | esm => "esm"
  | ts => "ts"

/-- The accepted names: `plain` is another name for the factory form. -/
def known : List (String × Language) :=
  [("es5", es5), ("plain", es5), ("es6", es6), ("esm", esm), ("ts", ts)]

/-- The language with the given name. -/
def ofName? (name : String) : Option Language :=
  (known.find? (·.1 == name)).map (·.2)

/-- Reads a language. -/
def decode : Decoder Language :=
  Decoder.named known

/-- Writes a language by its name. -/
def toJson (l : Language) : Json := .str l.name

/-- Whether modules are typed. -/
def isTyped (l : Language) : Bool := l = ts

/-- Whether the definition is wrapped in a class. -/
def isClassBased (l : Language) : Bool := l ≠ es5

end Language
end SchemaModels
