import SchemaModels.Text.CharClass

/-!
# Word patterns

The small language in which the rules for plural and singular forms describe word endings: letters
in either case, choices, optional parts, groups whose text a replacement can use, and the edge of
a word. Patterns have no repetition, so a pattern reads a text in finitely many ways, and
`Pattern.read` lists them with the preferred ones first.
-/

namespace SchemaModels.Naming

open Text

/-- The lower-case letter that a letter of a rule stands for, whatever its case. Besides the
capitals these are the long s, the kelvin sign and the one accented capital that a rule mentions.
-/
def foldCase (c : Char) : Char :=
  if c = 'ſ' then 's'
  else if c = '\u212a' then 'k'
  else if c = 'É' then 'é'
  else c.toLower

/-- What a pattern asks of one character. -/
inductive CharTest where
  /-- One of the letters, in either case. -/
  | among (letters : List Char)
  /-- Anything but the letters. -/
  | besides (letters : List Char)
  /-- Anything that is not an ASCII character in either case. -/
  | nonAscii
  /-- Anything that is not part of a word. -/
  | nonWord
  deriving DecidableEq

/-- Whether a character passes the test. -/
def CharTest.passes : CharTest → Char → Bool
  | .among letters, c => letters.contains (foldCase c)
  | .besides letters, c => !letters.contains (foldCase c)
  | .nonAscii, c => !isAscii (foldCase c)
  | .nonWord, c => !isWordChar c

/-- A pattern for a part of a text. -/
inductive Pattern where
  /-- Nothing at all. -/
  | empty
  | char (test : CharTest)
  /-- The one, then the other. -/
  | seq (first second : Pattern)
  /-- The one or the other; the first is preferred. -/
  | alt (first second : Pattern)
  /-- The pattern, with its text kept for the replacement. -/
  | group (inner : Pattern)
  /-- The edge between a character of a word and one that is none, or an end of the text. -/
  | wordEdge
  /-- The start of the text. -/
  | start
  deriving DecidableEq

namespace Pattern

instance : Append Pattern := ⟨seq⟩

/-- The letters of `s`, each in either case. -/
def word (s : String) : Pattern :=
  s.toList.foldr (fun c p => seq (char (.among [c])) p) empty

instance : Coe String Pattern := ⟨word⟩

/-- One of the letters of `s`. -/
def among (s : String) : Pattern := char (.among s.toList)

/-- One character that is none of the letters of `s`. -/
def besides (s : String) : Pattern := char (.besides s.toList)

/-- One of the patterns, earlier ones preferred. -/
def oneOf : List Pattern → Pattern
  | [] => empty
  | [p] => p
  | p :: ps => alt p (oneOf ps)

/-- The pattern or, failing that, nothing. -/
def maybe (p : Pattern) : Pattern := alt p empty

/-- One way to read a pattern: the characters taken, the texts of its groups, and what is left. -/
structure Reading where
  taken : List Char
  groups : List (List Char)
  rest : List Char
  deriving DecidableEq

/-- Whether a word edge lies between two characters, where none stands for an end of the text. -/
def isEdge (before after : Option Char) : Bool :=
  (before.any isWordChar) != (after.any isWordChar)

/-- All ways to read the pattern at the front of the characters, preferred ones first; `before` is
the character in front of them. -/
def read : Pattern → (before : Option Char) → List Char → List Reading
  | .empty, _, cs => [⟨[], [], cs⟩]
  | .char _, _, [] => []
  | .char test, _, c :: cs => if test.passes c then [⟨[c], [], cs⟩] else []
  | .seq p q, before, cs =>
    (read p before cs).flatMap fun r =>
      (read q (r.taken.getLast? <|> before) r.rest).map fun s =>
        ⟨r.taken ++ s.taken, r.groups ++ s.groups, s.rest⟩
  | .alt p q, before, cs => read p before cs ++ read q before cs
  | .group p, before, cs => (read p before cs).map fun r => { r with groups := r.taken :: r.groups }
  | .wordEdge, before, cs => if isEdge before cs.head? then [⟨[], [], cs⟩] else []
  | .start, before, cs => if before.isNone then [⟨[], [], cs⟩] else []

/-- The leftmost place from which the pattern reads up to the end of the text: the characters
before it, and the preferred reading there. -/
def findAtEnd (p : Pattern) (before : Option Char) (cs : List Char) :
    Option (List Char × Reading) :=
  match (p.read before cs).find? (·.rest.isEmpty) with
  | some r => some ([], r)
  | none =>
    match cs with
    | [] => none
    | c :: cs => (findAtEnd p (some c) cs).map fun (skipped, r) => (c :: skipped, r)

end Pattern
end SchemaModels.Naming
