import SchemaModels.Text.CaseIgnorable
import SchemaModels.Text.CaseShift
import SchemaModels.Text.CharClass

/-!
# Lower and upper case

The full case mappings of the Unicode standard, for single characters and for whole texts. A
character may become several (`ß` in upper case is `SS`). In a text, a capital sigma that ends a
word becomes the final form `ς` in lower case: it stands after a cased character and not before
one, where case-ignorable characters are looked through on both sides.
-/

namespace SchemaModels.Text

/-- The mapped form of a character: its listed expansion, else its counterpart in the first range
that holds it, else itself. -/
def mapCase (expansions : List (Nat × List Nat)) (shifts : List CaseShift) (c : Char) : List Char :=
  match expansions.find? (·.1 == c.toNat) with
  | some e => e.2.map Char.ofNat
  | none =>
    match shifts.find? (·.source.covers c.toNat) with
    | some s => [Char.ofNat (s.target + (c.toNat - s.source.first))]
    | none => [c]

/-- The lower-case form of one character. -/
def toLower (c : Char) : List Char :=
  if isAscii c then [c.toLower] else mapCase lowerExpansions lowerShifts c

/-- The upper-case form of one character. -/
def toUpper (c : Char) : List Char :=
  if isAscii c then [c.toUpper] else mapCase upperExpansions upperShifts c

/-- A character that the rule for a final sigma looks through. -/
def isCaseIgnorable (c : Char) : Bool :=
  inRanges caseIgnorableRanges c

/-- Whether the first character that is not case-ignorable is cased. -/
def startsCased : List Char → Bool
  | [] => false
  | c :: cs => if isCaseIgnorable c then startsCased cs else isCased c

/-- The lower-case form of a text. `afterCased` tells whether the nearest character before it that
is not case-ignorable is cased. -/
def lowerFrom (afterCased : Bool) : List Char → List Char
  | [] => []
  | c :: cs =>
    if c = 'Σ' then
      (if afterCased && !startsCased cs then 'ς' else 'σ') :: lowerFrom true cs
    else
      toLower c ++ lowerFrom (if isCaseIgnorable c then afterCased else isCased c) cs

/-- The text in lower case. -/
def lowercase (s : String) : String :=
  String.ofList (lowerFrom false s.toList)

/-- The text in upper case. -/
def uppercase (s : String) : String :=
  String.ofList (s.toList.flatMap toUpper)

/-- The text with its first character in upper case and the rest as it is. -/
def upperFirst (s : String) : String :=
  match s.toList with
  | [] => ""
  | c :: cs => String.ofList (toUpper c ++ cs)

/-- Whether two texts are equal up to the case of ASCII letters. -/
def eqIgnoringAsciiCase (s t : String) : Bool :=
  s.toList.map Char.toLower == t.toList.map Char.toLower

end SchemaModels.Text
