import SchemaModels.Text.CharClass
import SchemaModels.Text.Printable

/-!
# Texts shown inside quotes

Three ways to write a text between double quotes: in a message for a reader, in JSON text, and in
generated script code. Each is a choice of escapes, one character at a time.
-/

namespace SchemaModels.Text

/-- The hexadecimal digits of `n`, at least `width` of them. -/
def hexDigits (width n : Nat) : List Char :=
  let ds := Nat.toDigits 16 n
  List.replicate (width - ds.length) '0' ++ ds

/-- A character as messages show it: quotes, backslashes and what cannot be seen are escaped, the
latter by number unless there is a short escape. -/
def showChar (c : Char) : List Char :=
  if c = '"' || c = '\\' then ['\\', c]
  else if c = '\n' then ['\\', 'n']
  else if c = '\r' then ['\\', 'r']
  else if c = '\t' then ['\\', 't']
  else if c.toNat = 0 then ['\\', '0']
  else if inRanges graphemeExtenderRanges c || inRanges unprintableRanges c then
    ['\\', 'u', '\x7b'] ++ hexDigits 1 c.toNat ++ ['\x7d']
  else [c]

/-- The text between quotes, as messages show it. -/
def shown (s : String) : String :=
  String.ofList ('"' :: (s.toList.flatMap showChar ++ ['"']))

/-- A character in JSON text: quotes, backslashes and controls below U+0020 are escaped. -/
def jsonChar (c : Char) : List Char :=
  if c = '"' || c = '\\' then ['\\', c]
  else if c = '\n' then ['\\', 'n']
  else if c = '\r' then ['\\', 'r']
  else if c = '\t' then ['\\', 't']
  else if c.toNat = 0x08 then ['\\', 'b']
  else if c.toNat = 0x0C then ['\\', 'f']
  else if c.toNat < 0x20 then ['\\', 'u'] ++ hexDigits 4 c.toNat
  else [c]

/-- The text between quotes, as JSON writes it. -/
def jsonQuoted (s : String) : String :=
  String.ofList ('"' :: (s.toList.flatMap jsonChar ++ ['"']))

/-- A character inside a double-quoted script literal: quotes, backslashes, slashes and all
controls are escaped. -/
def scriptChar (c : Char) : List Char :=
  if c = '"' || c = '\\' || c = '/' then ['\\', c]
  else if c = '\n' then ['\\', 'n']
  else if c = '\r' then ['\\', 'r']
  else if c = '\t' then ['\\', 't']
  else if c.toNat = 0x08 then ['\\', 'b']
  else if c.toNat = 0x0C then ['\\', 'f']
  else if isControl c then ['\\', 'u'] ++ hexDigits 4 c.toNat
  else [c]

/-- The text as it stands inside a double-quoted script literal. -/
def scriptEscaped (s : String) : String :=
  String.ofList (s.toList.flatMap scriptChar)

/-- The text as a double-quoted script literal. -/
def scriptQuoted (s : String) : String :=
  "\"" ++ scriptEscaped s ++ "\""

end SchemaModels.Text
