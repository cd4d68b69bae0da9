import SchemaModels.Model.Context
import SchemaModels.Text.Search

/-!
# The scaffold of a module

What stands around the definition of a model in each output language: the header, up to the brace
that opens the object of attributes, and the footer after the object of options. In a typed module
the declarations of types come between the header and the definition, and the last of them opens
the object.
-/

namespace SchemaModels

open Text

namespace Scaffold

/-- The line that opens a definition inside a class. -/
def opener (ctx : Context) : String :=
  if ctx.settings.useDefine then
    ctx.indent 1 ++ "return sequelize.define('" ++ modelToken ++ "', \x7b"
  else ctx.indent 1 ++ "return super.init(\x7b"

/-- The text before the definition. -/
def header (ctx : Context) : String :=
  match ctx.settings.language with
  | .es5 => unlines [
      "const Sequelize = require('sequelize');",
      "module.exports = function(sequelize, DataTypes) \x7b",
      ctx.indent 1 ++ "return sequelize.define('" ++ modelToken ++ "', \x7b"]
  | .es6 => unlines [
      "const Sequelize = require('sequelize');",
      "module.exports = (sequelize, DataTypes) => \x7b",
      ctx.indent 1 ++ "return " ++ modelToken ++ ".init(sequelize, DataTypes);",
      "\x7d",
      "",
      "class " ++ modelToken ++ " extends Sequelize.Model \x7b",
      ctx.indent 1 ++ "static init(sequelize, DataTypes) \x7b",
      opener ctx]
  | .esm => unlines [
      "import _sequelize from 'sequelize';",
      "const \x7b Model, Sequelize \x7d = _sequelize;",
      "",
      "export default class " ++ modelToken ++ " extends Model \x7b",
      ctx.indent 1 ++ "static init(sequelize, DataTypes) \x7b",
      opener ctx]
  | .ts => unlines [
      "import * as Sequelize from 'sequelize';",
      "import \x7b DataTypes, Model, Optional \x7d from 'sequelize';"]

/-- The line that closes the call that defines the model. -/
def closer (ctx : Context) : String :=
  if ctx.settings.language = .ts && ctx.settings.useDefine then ") as typeof " ++ modelToken ++ ";"
  else ");"

/-- The text after the definition. -/
def footer (ctx : Context) : String :=
  match ctx.settings.language with
  | .es5 => unlines [");", "\x7d;"]
  | _ => unlines [closer ctx, ctx.indent 1 ++ "\x7d", "\x7d"]

end Scaffold
end SchemaModels
