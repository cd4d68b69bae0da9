import SchemaModels.Text.Case
import SchemaModels.Text.Search

/-!
# Words of a name and letter cases

A name is cut into words where it has a character that is neither a letter nor a number, and where
its case changes: between a lower-case and an upper-case letter (`userId`), and before the last of
several upper-case letters that a lower-case one follows (`HTMLPage`). The words are then written
in one of the usual cases. Empty pieces give no word, so the words of a name are never empty.
-/

namespace SchemaModels.Naming

open Text

/-- The case of the last cased character of the word so far. -/
inductive Run where
  | fresh
  | lower
  | upper
  deriving DecidableEq

/-- The run after a character, if it does not end the word. -/
def Run.next (run : Run) (c : Char) : Run :=
  if isLowercase c then .lower else if isUppercase c then .upper else run

/-- Puts a character in front of the first word. -/
def extendFirst (c : Char) : List (List Char) → List (List Char)
  | [] => [[c]]
  | w :: ws => (c :: w) :: ws

/-- The words of a piece that has only letters and numbers. The first of them continues the word
that `run` belongs to, and is empty if that word is already complete. -/
def cutPiece (run : Run) : List Char → List (List Char)
  | [] => []
  | [c] => [[c]]
  | c :: n :: rest =>
    if run.next c = .lower && isUppercase n then
      [c] :: cutPiece .fresh (n :: rest)
    else if run = .upper && isUppercase c && isLowercase n then
      [] :: extendFirst c (cutPiece .fresh (n :: rest))
    else
      extendFirst c (cutPiece (run.next c) (n :: rest))

/-- The words of a name. -/
def words (s : String) : List (List Char) :=
  (splitWhere (fun c => !isAlphanumeric c) s.toList).flatMap (cutPiece .fresh)

/-- A word in lower case; a sigma at its end takes the final form. -/
def lowerWord : List Char → List Char
  | [] => []
  | ['Σ'] => ['ς']
  | c :: cs => toLower c ++ lowerWord cs

/-- A word in upper case. -/
def upperWord (w : List Char) : List Char :=
  w.flatMap toUpper

/-- A word with its first character in upper case and the others in lower case. -/
def capitalWord : List Char → List Char
  | [] => []
  | c :: cs => toUpper c ++ lowerWord cs

/-- `orderItems`: the first word in lower case, the others capitalized. -/
def camelCase (s : String) : String :=
  match words s with
  | [] => ""
  | w :: ws => String.ofList (lowerWord w ++ ws.flatMap capitalWord)

/-- `OrderItems`: every word capitalized. -/
def pascalCase (s : String) : String :=
  String.ofList ((words s).flatMap capitalWord)

/-- `order_items`: words in lower case, joined by underscores. -/
def snakeCase (s : String) : String :=
  String.ofList (List.intercalate ['_'] ((words s).map lowerWord))

/-- `ORDER_ITEMS`: words in upper case, joined by underscores. -/
def upperSnakeCase (s : String) : String :=
  String.ofList (List.intercalate ['_'] ((words s).map upperWord))

/-- `order-items`: words in lower case, joined by hyphens. -/
def kebabCase (s : String) : String :=
  String.ofList (List.intercalate ['-'] ((words s).map lowerWord))

end SchemaModels.Naming
