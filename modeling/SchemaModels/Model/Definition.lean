import SchemaModels.Model.Attribute
import SchemaModels.Model.TableOption

/-!
# The definition of a model

The inside of the call that defines a model: the attribute blocks, the end of the object they
stand in, and the object of options. The object of attributes is opened by what comes before.
-/

namespace SchemaModels

/-- What the call that defines a model is given. -/
structure Definition where
  blocks : List AttributeBlock
  options : List TableOption
  deriving Inhabited

/-- The definition of the model of a table. -/
def Table.definition (ctx : Context) (t : Table) : Definition :=
  ⟨t.attributeBlocks ctx, TableOption.ofTable ctx t⟩

namespace Definition

/-- The attribute blocks in the generated code. -/
def renderBlocks (ctx : Context) (d : Definition) : String :=
  if d.blocks.isEmpty then ""
  else String.intercalate ",\n" (d.blocks.map (·.render ctx)) ++ "\n"

/-- The options in the generated code. -/
def renderOptions (ctx : Context) (d : Definition) : String :=
  String.intercalate ",\n" (d.options.map (·.render ctx))

/-- From the first attribute up to the brace that closes the options. The name of the model is
left as its token. -/
def render (ctx : Context) (d : Definition) : String :=
  d.renderBlocks ctx ++ ctx.indent 1 ++ "\x7d, \x7b\n" ++ d.renderOptions ctx ++ "\n"
    ++ ctx.indent 1 ++ "\x7d"

end Definition
end SchemaModels
