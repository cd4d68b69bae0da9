import SchemaModels.Json.Basic
import SchemaModels.Json.IntegerRange

/-!
# Reading JSON text

`Json.parse?` reads one value. An integer that fits 64 bits, signed or unsigned, is kept exactly;
every other number is rounded, and of its digits only as many count as 64 bits hold. The reader
goes down into arrays and objects with a depth that starts at the length of the text, which no
nesting can exceed.
-/

namespace SchemaModels.Json

/-- Drops blanks, tabs and line ends. -/
def skipBlanks (cs : List Char) : List Char :=
  cs.dropWhile fun c => c = ' ' || c = '\t' || c = '\n' || c = '\r'

/-- The value of a hexadecimal digit. -/
def hexValue? (c : Char) : Option Nat :=
  if c.isDigit then some (c.toNat - '0'.toNat)
  else if 'a' ≤ c && c ≤ 'f' then some (c.toNat - 'a'.toNat + 10)
  else if 'A' ≤ c && c ≤ 'F' then some (c.toNat - 'A'.toNat + 10)
  else none

/-- The number with four hexadecimal digits. -/
def hexUnit? (a b c d : Char) : Option Nat := do
  return ((← hexValue? a) * 16 + (← hexValue? b)) * 256 + (← hexValue? c) * 16 + (← hexValue? d)

/-- The character after a backslash in a short escape. -/
def shortEscape? (c : Char) : Option Char :=
  if c = '"' || c = '\\' || c = '/' then some c
  else if c = 'b' then some (Char.ofNat 0x08)
  else if c = 'f' then some (Char.ofNat 0x0C)
  else if c = 'n' then some '\n'
  else if c = 'r' then some '\r'
  else if c = 't' then some '\t'
  else none

/-- Whether the number is the first half of a surrogate pair. -/
def isHighSurrogate (n : Nat) : Bool := 0xD800 ≤ n && n < 0xDC00

/-- Whether the number is the second half of a surrogate pair. -/
def isLowSurrogate (n : Nat) : Bool := 0xDC00 ≤ n && n < 0xE000

/-- Reads the rest of a string after its opening quote: its characters and what follows it. -/
def readString : List Char → Option (List Char × List Char)
  | [] => none
  | '"' :: rest => some ([], rest)
  | '\\' :: 'u' :: a :: b :: c :: d :: '\\' :: 'u' :: a' :: b' :: c' :: d' :: rest => do
    let n ← hexUnit? a b c d
    if isHighSurrogate n then
      let m ← hexUnit? a' b' c' d'
      if isLowSurrogate m then
        let (s, rest) ← readString rest
        some (Char.ofNat (0x10000 + (n - 0xD800) * 0x400 + (m - 0xDC00)) :: s, rest)
      else none
    else if isLowSurrogate n then none
    else
      let (s, rest) ← readString ('\\' :: 'u' :: a' :: b' :: c' :: d' :: rest)
      some (Char.ofNat n :: s, rest)
  | '\\' :: 'u' :: a :: b :: c :: d :: rest => do
    let n ← hexUnit? a b c d
    if isHighSurrogate n || isLowSurrogate n then none
    else
      let (s, rest) ← readString rest
      some (Char.ofNat n :: s, rest)
  | '\\' :: c :: rest => do
    let e ← shortEscape? c
    let (s, rest) ← readString rest
    some (e :: s, rest)
  | c :: rest =>
    if c = '\\' || c.toNat < 0x20 then none
    else do
      let (s, rest) ← readString rest
      some (c :: s, rest)

/-- The value of a decimal digit. -/
def digitValue (c : Char) : Nat := c.toNat - '0'.toNat

/-- Appends the digits of an integer part to the significand while it fits, and counts the rest.
-/
def takeInteger (significand : Nat) : List Char → Nat × Nat
  | [] => (significand, 0)
  | d :: ds =>
    if significand * 10 + digitValue d ≤ maxUInt64 then
      takeInteger (significand * 10 + digitValue d) ds
    else (significand, ds.length + 1)

/-- Appends the digits of a fraction to the significand while it fits, and counts those taken. -/
def takeFraction (significand taken : Nat) : List Char → Nat × Nat
  | [] => (significand, taken)
  | d :: ds =>
    if significand * 10 + digitValue d ≤ maxUInt64 then
      takeFraction (significand * 10 + digitValue d) (taken + 1) ds
    else (significand, taken)

/-- The digits at the front, at least one, and what follows them. -/
def readDigits (cs : List Char) : Option (List Char × List Char) :=
  match cs.takeWhile Char.isDigit with
  | [] => none
  | ds => some (ds, cs.dropWhile Char.isDigit)

/-- Reads an optional fraction: its digits, none if there is no point. -/
def readFraction : List Char → Option (List Char × List Char)
  | '.' :: cs => readDigits cs
  | cs => some ([], cs)

/-- The value of an exponent's digits. -/
def exponentValue (ds : List Char) : Nat :=
  ds.foldl (fun n d => n * 10 + digitValue d) 0

/-- Reads an optional exponent. -/
def readExponent : List Char → Option (Option Int × List Char)
  | c :: cs =>
    if c = 'e' || c = 'E' then
      match cs with
      | '-' :: cs => (readDigits cs).map fun (ds, rest) => (some (-(exponentValue ds : Int)), rest)
      | '+' :: cs => (readDigits cs).map fun (ds, rest) => (some (exponentValue ds : Int), rest)
      | cs => (readDigits cs).map fun (ds, rest) => (some (exponentValue ds : Int), rest)
    else some (none, c :: cs)
  | [] => some (none, [])

/-- The number without fraction and exponent: exact within 64 bits, and otherwise rounded. Minus
zero is not an integer. -/
def integerNumber (negative : Bool) (significand dropped : Nat) : Option Json :=
  if dropped = 0 && !negative then some (.int significand)
  else if dropped = 0 && 0 < significand && isInt64 (-significand) then some (.int (-significand))
  else (Binary64.ofDecimal negative significand dropped).map .float

/-- Reads a number. -/
def readNumber (cs : List Char) : Option (Json × List Char) := do
  let (negative, cs) := match cs with
    | '-' :: cs => (true, cs)
    | cs => (false, cs)
  let (whole, rest) ← readDigits cs
  if whole.length > 1 && whole.head? == some '0' then none
  let (fraction, rest) ← readFraction rest
  let (exponent, rest) ← readExponent rest
  let (significand, dropped) := takeInteger 0 whole
  if fraction.isEmpty && exponent.isNone then
    return (← integerNumber negative significand dropped, rest)
  let (significand, taken) := takeFraction significand 0 fraction
  let power : Int := dropped - taken + exponent.getD 0
  return (.float (← Binary64.ofDecimal negative significand power), rest)

/-- Reads the given word and answers `value`. -/
def readWord (word : String) (value : Json) (cs : List Char) : Option (Json × List Char) :=
  if word.toList.isPrefixOf cs then some (value, cs.drop word.length) else none

/-- Reads the items of an array after one that has been read, up to the closing bracket. -/
def readItems (readItem : List Char → Option (Json × List Char)) :
    (fuel : Nat) → List Char → Option (List Json × List Char)
  | 0, _ => none
  | fuel + 1, cs => do
    let (item, rest) ← readItem cs
    match skipBlanks rest with
    | ',' :: rest =>
      let (items, rest) ← readItems readItem fuel rest
      some (item :: items, rest)
    | ']' :: rest => some ([item], rest)
    | _ => none

/-- Reads the members of an object up to the closing brace. -/
def readMembers (readItem : List Char → Option (Json × List Char)) :
    (fuel : Nat) → List Char → Option (List (String × Json) × List Char)
  | 0, _ => none
  | fuel + 1, cs => do
    let '"' :: rest := skipBlanks cs | none
    let (key, rest) ← readString rest
    let ':' :: rest := skipBlanks rest | none
    let (value, rest) ← readItem rest
    match skipBlanks rest with
    | ',' :: rest =>
      let (members, rest) ← readMembers readItem fuel rest
      some ((String.ofList key, value) :: members, rest)
    | '\x7d' :: rest => some ([(String.ofList key, value)], rest)
    | _ => none

/-- Reads one value after any blanks, to the given depth of nesting. -/
def readValue : (depth : Nat) → List Char → Option (Json × List Char)
  | 0, _ => none
  | depth + 1, cs =>
    match skipBlanks cs with
    | [] => none
    | '"' :: rest => (readString rest).map fun (s, rest) => (.str (String.ofList s), rest)
    | '[' :: rest =>
      match skipBlanks rest with
      | ']' :: rest => some (.arr [], rest)
      | rest => (readItems (readValue depth) rest.length rest).map fun (vs, rest) => (.arr vs, rest)
    | '\x7b' :: rest =>
      match skipBlanks rest with
      | '\x7d' :: rest => some (.obj [], rest)
      | rest =>
        (readMembers (readValue depth) rest.length rest).map fun (ms, rest) => (ofMembers ms, rest)
    | c :: rest =>
      if c = 't' then readWord "true" (.bool true) (c :: rest)
      else if c = 'f' then readWord "false" (.bool false) (c :: rest)
      else if c = 'n' then readWord "null" .null (c :: rest)
      else readNumber (c :: rest)

/-- The value that a JSON text holds, none if it holds anything else. -/
def parse? (text : String) : Option Json :=
  let cs := text.toList
  match readValue (cs.length + 1) cs with
  | some (value, rest) => if (skipBlanks rest).isEmpty then some value else none
  | none => none

end SchemaModels.Json
