import HomeCatalog.Json.Basic

/-!
# Reading JSON

`Json.parse` reads a whole text as one JSON document. White space is the space, the tab, the line
feed and the carriage return. Beyond the standard it takes the words `NaN`, `Infinity` and
`-Infinity`. A text that is no document is refused at the first character that cannot be right, with
its line, its column and its offset.

The reading functions work on the characters left to read and return those they leave. They count
nested values down by `fuel`, which `Json.parse` takes from the length of the text.
-/

namespace HomeCatalog.Json

/-- What a document lacks where it goes wrong. -/
inductive Problem
  | value
  | name
  | colon
  | comma
  | extraData
  | unterminatedText
  | control
  | escape
  | codeEscape
  | byteOrderMark
deriving DecidableEq, Repr

/-- The wording of a problem. -/
def Problem.message : Problem → String
  | .value => "Expecting value"
  | .name => "Expecting property name enclosed in double quotes"
  | .colon => "Expecting ':' delimiter"
  | .comma => "Expecting ',' delimiter"
  | .extraData => "Extra data"
  | .unterminatedText => "Unterminated string starting at"
  | .control => "Invalid control character at"
  | .escape => "Invalid \\escape"
  | .codeEscape => "Invalid \\uXXXX escape"
  | .byteOrderMark => "Unexpected UTF-8 BOM (decode using utf-8-sig)"

/-- A number that is well written but cannot be held. -/
inductive NumberFault
  /-- An integer of more digits than are read. -/
  | integerTooLong
  /-- A decimal whose exponent is out of range. -/
  | exponentOutOfRange
deriving DecidableEq, Repr

/-- Why reading stopped, with the number of characters left where it did. -/
inductive Stop
  | malformed (problem : Problem) (left : Nat)
  | number (fault : NumberFault)
deriving DecidableEq, Repr

/-- A value and the characters after it. -/
abbrev Read (α : Type) := Except Stop (α × List Char)

/-- Reading stops in front of `rest`. -/
def stopAt {α : Type} (problem : Problem) (rest : List Char) : Except Stop α :=
  .error (.malformed problem rest.length)

/-- The white space of the format. -/
def isSpace (c : Char) : Bool :=
  c == ' ' || c == '\t' || c == '\n' || c == '\r'

/-- The characters after the white space they begin with. -/
def skipSpace (cs : List Char) : List Char :=
  cs.dropWhile isSpace

/-! ## Texts -/

/-- The character that a letter after a backslash stands for. -/
def escaped? : Char → Option Char
  | '"' => some '"'
  | '\\' => some '\\'
  | '/' => some '/'
  | 'b' => some '\x08'
  | 'f' => some '\x0c'
  | 'n' => some '\n'
  | 'r' => some '\r'
  | 't' => some '\t'
  | _ => none

/-- The value of a hexadecimal digit. -/
def hexValue? (c : Char) : Option Nat :=
  if '0' ≤ c ∧ c ≤ '9' then some (c.toNat - 48)
  else if 'a' ≤ c ∧ c ≤ 'f' then some (c.toNat - 87)
  else if 'A' ≤ c ∧ c ≤ 'F' then some (c.toNat - 55)
  else none

/-- The number that four hexadecimal digits spell. -/
def hexUnit? (a b c d : Char) : Option Nat := do
  let a ← hexValue? a
  let b ← hexValue? b
  let c ← hexValue? c
  let d ← hexValue? d
  return ((a * 16 + b) * 16 + c) * 16 + d

/-- The letters read, last first, after one more code unit: the second half of a pair completes the
first half right before it. What is not escaped is never a half. -/
def addUnit (read : List Letter) (n : Nat) : List Letter :=
  match Letter.ofCode n, read with
  | .low second, .high first :: read => .char (Letter.pair first second) :: read
  | l, read => l :: read

/-- The rest of a text after its opening quote, `start` being what began with that quote and `read`
the letters so far, last first. The four digits of a code unit are never the end of a document. -/
def readText (start : List Char) (read : List Letter) : List Char → Read Letters
  | [] => stopAt .unterminatedText start
  | '"' :: rest => .ok (⟨read.reverse⟩, rest)
  | '\\' :: 'u' :: a :: b :: c :: d :: rest =>
    if rest.isEmpty then stopAt .codeEscape ('u' :: a :: b :: c :: d :: rest)
    else match hexUnit? a b c d with
      | none => stopAt .codeEscape ('u' :: a :: b :: c :: d :: rest)
      | some n => readText start (addUnit read n) rest
  | '\\' :: 'u' :: rest => stopAt .codeEscape ('u' :: rest)
  | '\\' :: c :: rest =>
    match escaped? c with
    | some d => readText start (.char d :: read) rest
    | none => stopAt .escape ('\\' :: c :: rest)
  | '\\' :: [] => stopAt .unterminatedText start
  | c :: rest =>
    if c.toNat < 0x20 then stopAt .control (c :: rest)
    else readText start (.char c :: read) rest

/-! ## Numbers -/

/-- The most digits that an integer is read with. -/
def maxIntegerDigits : Nat := 4300

/-- The exponent at the beginning of some characters: its value and what follows it. -/
def readScale? : List Char → Option (Int × List Char)
  | c :: cs =>
    if c = 'e' ∨ c = 'E' then
      let (negative, cs) : Bool × List Char := match cs with
        | '-' :: cs => (true, cs)
        | '+' :: cs => (false, cs)
        | cs => (false, cs)
      let ds := cs.takeWhile (·.isDigit)
      if ds.isEmpty then none
      else
        let n : Int := Decimal.digitsValue ds
        some (if negative then -n else n, cs.dropWhile (·.isDigit))
    else none
  | [] => none

/-- The digits behind a point at the beginning of some characters, and what follows them. -/
def readFraction? : List Char → Option (List Char × List Char)
  | '.' :: cs =>
    let ds := cs.takeWhile (·.isDigit)
    if ds.isEmpty then none else some (ds, cs.dropWhile (·.isDigit))
  | _ => none

/-- A number whose whole part is `whole`, followed by `rest`. -/
def readNumberAfter (negative : Bool) (whole rest : List Char) : Read Json :=
  let fraction := readFraction? rest
  let (fractionDigits, rest) := fraction.getD ([], rest)
  let scale := readScale? rest
  let (scaleValue, rest) := scale.getD (0, rest)
  if fraction.isNone && scale.isNone then
    if whole.length > maxIntegerDigits then .error (.number .integerTooLong)
    else
      let n : Int := Decimal.digitsValue whole
      .ok (.int (if negative then -n else n), rest)
  else
    let d := Decimal.ofParts negative whole fractionDigits scaleValue
    if d.InRange then .ok (.decimal d, rest) else .error (.number .exponentOutOfRange)

/-- A number at the beginning of some characters. A zero is not followed by more digits. -/
def readNumber (cs : List Char) : Read Json :=
  let (negative, body) : Bool × List Char := match cs with
    | '-' :: body => (true, body)
    | body => (false, body)
  match body with
  | '0' :: rest => readNumberAfter negative ['0'] rest
  | _ =>
    let whole := body.takeWhile (·.isDigit)
    if whole.isEmpty then stopAt .value cs
    else readNumberAfter negative whole (body.dropWhile (·.isDigit))

/-! ## Values -/

mutual

/-- A value at the beginning of some characters. -/
def readValue (fuel : Nat) (cs : List Char) : Read Json :=
  match fuel with
  | 0 => stopAt .value cs
  | fuel + 1 =>
    match cs with
    | '"' :: rest => (readText cs [] rest).map fun r => (.text r.1, r.2)
    | '{' :: rest =>
      match skipSpace rest with
      | '}' :: rest => .ok (.object [], rest)
      | rest => readMembers fuel [] rest
    | '[' :: rest =>
      match skipSpace rest with
      | ']' :: rest => .ok (.list [], rest)
      | rest => readItems fuel [] rest
    | 'n' :: 'u' :: 'l' :: 'l' :: rest => .ok (.null, rest)
    | 't' :: 'r' :: 'u' :: 'e' :: rest => .ok (.bool true, rest)
    | 'f' :: 'a' :: 'l' :: 's' :: 'e' :: rest => .ok (.bool false, rest)
    | 'N' :: 'a' :: 'N' :: rest => .ok (.special .notANumber, rest)
    | 'I' :: 'n' :: 'f' :: 'i' :: 'n' :: 'i' :: 't' :: 'y' :: rest => .ok (.special .infinity, rest)
    | '-' :: 'I' :: 'n' :: 'f' :: 'i' :: 'n' :: 'i' :: 't' :: 'y' :: rest =>
      .ok (.special .minusInfinity, rest)
    | _ => readNumber cs

/-- The rest of a list that holds `items` so far, last first, from an item on. -/
def readItems (fuel : Nat) (items : List Json) (cs : List Char) : Read Json :=
  match fuel with
  | 0 => stopAt .value cs
  | fuel + 1 =>
    match readValue fuel cs with
    | .error e => .error e
    | .ok (item, rest) =>
      match skipSpace rest with
      | ']' :: rest => .ok (.list (item :: items).reverse, rest)
      | ',' :: rest => readItems fuel (item :: items) (skipSpace rest)
      | rest => stopAt .comma rest

/-- The rest of an object that has `members` so far, from a member on. -/
def readMembers (fuel : Nat) (members : List (Letters × Json)) (cs : List Char) : Read Json :=
  match fuel with
  | 0 => stopAt .value cs
  | fuel + 1 =>
    match cs with
    | '"' :: rest =>
      match readText cs [] rest with
      | .error e => .error e
      | .ok (name, rest) =>
        match skipSpace rest with
        | ':' :: rest =>
          match readValue fuel (skipSpace rest) with
          | .error e => .error e
          | .ok (value, rest) =>
            let members := putMember members name value
            match skipSpace rest with
            | '}' :: rest => .ok (.object members, rest)
            | ',' :: rest => readMembers fuel members (skipSpace rest)
            | rest => stopAt .comma rest
        | rest => stopAt .colon rest
    | _ => stopAt .name cs

end

/-- A whole text as a document, the fault located by the number of characters left. -/
def readDocument (cs : List Char) : Except Stop Json :=
  match cs with
  | '\uFEFF' :: _ => stopAt .byteOrderMark cs
  | _ =>
    match readValue (2 * cs.length + 2) (skipSpace cs) with
    | .error e => .error e
    | .ok (j, rest) =>
      match skipSpace rest with
      | [] => .ok j
      | rest => stopAt .extraData rest

/-! ## Documents -/

/-- Why a text is no document. -/
inductive ReadError
  | malformed (problem : Problem) (line column offset : Nat)
  | number (fault : NumberFault)
deriving DecidableEq, Repr

/-- A problem in words, with the place where it was found. -/
def located (problem : Problem) (line column offset : Nat) : String :=
  s!"{problem.message}: line {line} column {column} (char {offset})"

/-- The place of a fault in a text, lines and columns counted from one. -/
def Stop.locate (cs : List Char) : Stop → ReadError
  | .malformed problem left =>
    let offset := cs.length - left
    let before := cs.take offset
    .malformed problem (before.count '\n' + 1)
      ((before.reverse.takeWhile (· != '\n')).length + 1) offset
  | .number fault => .number fault

/-- Read a text as one JSON document. -/
def parse (text : String) : Except ReadError Json :=
  match readDocument text.toList with
  | .error e => .error (e.locate text.toList)
  | .ok j => .ok j

end HomeCatalog.Json
