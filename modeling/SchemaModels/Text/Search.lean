/-!
# Searching, splitting and replacing

The plain text operations that the rules of this library are stated with. They are recursions on
the list of characters; none of them is given an empty text to look for.
-/

namespace SchemaModels.Text

/-- Whether `s` begins with `start`. -/
def beginsWith (start s : String) : Bool :=
  start.toList.isPrefixOf s.toList

/-- Whether `s` begins with one of the given texts. -/
def beginsWithAny (starts : List String) (s : String) : Bool :=
  starts.any (beginsWith · s)

/-- Whether `s` ends with `ending`. -/
def endsWith (ending s : String) : Bool :=
  ending.toList.isSuffixOf s.toList

/-- Whether `part` stands somewhere in the characters. -/
def occurs (part : List Char) : List Char → Bool
  | [] => part.isEmpty
  | c :: cs => part.isPrefixOf (c :: cs) || occurs part cs

/-- Whether `part` stands somewhere in `s`. -/
def contains (part s : String) : Bool :=
  occurs part.toList s.toList

/-- The pieces between the characters that satisfy `p`; where there is none, one piece. -/
def splitWhere (p : Char → Bool) : List Char → List (List Char)
  | [] => [[]]
  | c :: cs =>
    if p c then [] :: splitWhere p cs
    else
      match splitWhere p cs with
      | [] => [[c]]
      | piece :: pieces => (c :: piece) :: pieces

/-- The pieces of `s` between the occurrences of `sep`. -/
def splitOn (sep : Char) (s : String) : List String :=
  (splitWhere (· == sep) s.toList).map String.ofList

/-- Replaces every occurrence of `part`, leftmost first and without overlap; the first `skip`
characters belong to an occurrence already replaced. -/
def replaceFrom (part new : List Char) : (skip : Nat) → List Char → List Char
  | _, [] => []
  | skip + 1, _ :: cs => replaceFrom part new skip cs
  | 0, c :: cs =>
    if part.isPrefixOf (c :: cs) then new ++ replaceFrom part new (part.length - 1) cs
    else c :: replaceFrom part new 0 cs

/-- The text with every occurrence of `part` replaced by `new`. -/
def replace (part new s : String) : String :=
  String.ofList (replaceFrom part.toList new.toList 0 s.toList)

/-- The text with a backslash before every occurrence of the character. -/
def backslashBefore (quote : Char) (s : String) : String :=
  String.ofList (s.toList.flatMap fun c => if c = quote then ['\\', c] else [c])

/-- The text with one line end after each line. -/
def unlines (lines : List String) : String :=
  String.join (lines.map (· ++ "\n"))

end SchemaModels.Text
