import SchemaModels.Text.Alphabetic
import SchemaModels.Text.Numeric
import SchemaModels.Text.Mark
import SchemaModels.Text.Letter

/-!
# Character classes

The classes that names and column types are read by. Each one is decided by a short test below
U+0080 and by the tables of the Unicode property beyond, so that plain names never reach a table.
-/

namespace SchemaModels.Text

/-- Whether the character is one of the 128 ASCII characters. -/
def isAscii (c : Char) : Bool :=
  c.toNat < 0x80

/-- A lower-case character: the property Lowercase. -/
def isLowercase (c : Char) : Bool :=
  if isAscii c then c.isLower else inRanges lowercaseRanges c

/-- An upper-case character: the property Uppercase. -/
def isUppercase (c : Char) : Bool :=
  if isAscii c then c.isUpper else inRanges uppercaseRanges c

/-- A cased character: lower, upper or title case. -/
def isCased (c : Char) : Bool :=
  isLowercase c || isUppercase c || inRanges titlecaseRanges c

/-- A decimal digit of any script (general category Nd). -/
def isDecimalDigit (c : Char) : Bool :=
  if isAscii c then c.isDigit else inRanges decimalDigitRanges c

/-- A character with the property Alphabetic. -/
def isAlphabetic (c : Char) : Bool :=
  if isAscii c then c.isAlpha else inRanges alphabeticRanges c

/-- An alphabetic character or a number of any kind; all others part the words of a name. -/
def isAlphanumeric (c : Char) : Bool :=
  if isAscii c then c.isAlphanum
  else isAlphabetic c || isDecimalDigit c || inRanges otherNumberRanges c

/-- A character of a word: alphabetic, a mark, a decimal digit, a connector or a join control. -/
def isWordChar (c : Char) : Bool :=
  if isAscii c then c.isAlphanum || c == '_'
  else isAlphabetic c || isDecimalDigit c || inRanges markRanges c || inRanges connectorRanges c

/-- A control character (general category Cc). -/
def isControl (c : Char) : Bool :=
  c.toNat < 0x20 || (0x7F ≤ c.toNat && c.toNat ≤ 0x9F)

end SchemaModels.Text
