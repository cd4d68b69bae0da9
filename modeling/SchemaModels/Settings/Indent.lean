/-!
# Indentation

Generated code is indented by a number of spaces or tabs for each level of nesting.
-/

namespace SchemaModels

/-- The unit by which each level is indented. -/
structure Indent where
  mark : Char
  width : Nat
  deriving DecidableEq

namespace Indent

/-- Spaces or tabs, `width` of them for each level; no width at all means two. -/
def new (spaces : Bool) (width : Nat) : Indent :=
  ⟨if spaces then ' ' else '\t', if width = 0 then 2 else width⟩

/-- The blanks before a line at the given depth. A width for which they would not fit into memory
makes a run abort; this is left out, as it is for all texts. -/
def level (i : Indent) (depth : Nat) : String :=
  String.ofList (List.replicate (i.width * depth) i.mark)

end Indent
end SchemaModels
