import HomeCatalog.Decimal.Notation
import HomeCatalog.Json.Basic
import HomeCatalog.Text.Shown

/-!
# Writing JSON

`Json.write` writes a value on one line: a space after each comma and colon, and every character
outside printable ASCII by its number. A decimal has no form of its own there, so it is written as
the text of its scientific notation.

`Json.display` is the text of a value in running text: texts inside it are shown between quotes, and
a decimal inside it names itself.
-/

namespace HomeCatalog.Json

/-- One UTF-16 code unit as an escape. -/
def unitEscape (n : Nat) : List Char :=
  '\\' :: 'u' :: Text.hexDigits 4 n

/-- One character of a text. -/
def writeChar (c : Char) : List Char :=
  if c = '"' then ['\\', '"']
  else if c = '\\' then ['\\', '\\']
  else if c = '\n' then ['\\', 'n']
  else if c = '\r' then ['\\', 'r']
  else if c = '\t' then ['\\', 't']
  else if c = '\x08' then ['\\', 'b']
  else if c = '\x0c' then ['\\', 'f']
  else if 0x20 ≤ c.toNat ∧ c.toNat ≤ 0x7E then [c]
  else if c.toNat < 0x10000 then unitEscape c.toNat
  else
    let n := c.toNat - 0x10000
    unitEscape (0xD800 + n / 1024) ++ unitEscape (0xDC00 + n % 1024)

/-- One letter of a text. -/
def writeLetter : Letter → List Char
  | .char c => writeChar c
  | .high n => unitEscape (0xD800 + n)
  | .low n => unitEscape (0xDC00 + n)

/-- A text between double quotes. -/
def writeText (s : Letters) : List Char :=
  '"' :: s.list.flatMap writeLetter ++ ['"']

/-- The word for a number that is not finite. -/
def SpecialNumber.word : SpecialNumber → String
  | .notANumber => "NaN"
  | .infinity => "Infinity"
  | .minusInfinity => "-Infinity"

mutual

/-- The characters of a value. -/
def writeChars : Json → List Char
  | .null => ['n', 'u', 'l', 'l']
  | .bool true => ['t', 'r', 'u', 'e']
  | .bool false => ['f', 'a', 'l', 's', 'e']
  | .int n => (toString n).toList
  | .decimal d => writeText d.scientific
  | .special n => (SpecialNumber.word n).toList
  | .text s => writeText s
  | .list items => '[' :: writeItems items ++ [']']
  | .object members => '{' :: writeMembers members ++ ['}']

/-- The characters of items with a comma between each two. -/
def writeItems : List Json → List Char
  | [] => []
  | [j] => writeChars j
  | j :: rest => writeChars j ++ ',' :: ' ' :: writeItems rest

/-- The characters of members with a comma between each two. -/
def writeMembers : List (Letters × Json) → List Char
  | [] => []
  | [(name, j)] => writeText name ++ ':' :: ' ' :: writeChars j
  | (name, j) :: rest =>
    writeText name ++ ':' :: ' ' :: writeChars j ++ ',' :: ' ' :: writeMembers rest

end

/-- The value on one line. -/
def write (j : Json) : String :=
  String.ofList (writeChars j)

/-- The word that running text has for a number that is not finite. -/
def SpecialNumber.display : SpecialNumber → String
  | .notANumber => "nan"
  | .infinity => "inf"
  | .minusInfinity => "-inf"

/-- One letter of a text between `quote` characters; half a pair is shown by its number. -/
def shownLetter (quote : Char) : Letter → List Char
  | .char c => Text.shownChar quote c
  | .high n => Text.numbered (0xD800 + n)
  | .low n => Text.numbered (0xDC00 + n)

/-- A text between quotes, in running text. -/
def shownText (s : Letters) : String :=
  let quote := Text.quoteFor (s.list.map Letter.toChar)
  String.ofList (quote :: s.list.flatMap (shownLetter quote) ++ [quote])

mutual

/-- A value inside a list or an object, in running text. -/
def displayInner : Json → String
  | .null => "None"
  | .bool true => "True"
  | .bool false => "False"
  | .int n => toString n
  | .decimal d => "Decimal('" ++ d.scientific ++ "')"
  | .special n => SpecialNumber.display n
  | .text s => shownText s
  | .list items => "[" ++ displayItems items ++ "]"
  | .object members => "\x7b" ++ displayMembers members ++ "\x7d"

/-- Items with a comma between each two, in running text. -/
def displayItems : List Json → String
  | [] => ""
  | [j] => displayInner j
  | j :: rest => displayInner j ++ ", " ++ displayItems rest

/-- Members with a comma between each two, in running text. -/
def displayMembers : List (Letters × Json) → String
  | [] => ""
  | [(name, j)] => shownText name ++ ": " ++ displayInner j
  | (name, j) :: rest => shownText name ++ ": " ++ displayInner j ++ ", " ++ displayMembers rest

end

/-- A value in running text: a text or a decimal stands there as it is. -/
def display : Json → String
  | .text s => s.string
  | .decimal d => d.scientific
  | j => displayInner j

end HomeCatalog.Json
