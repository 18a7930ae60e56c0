import HomeCatalog.Decimal.Literal
import HomeCatalog.Text.Blank
import HomeCatalog.Text.Split
import HomeCatalog.Yaml.Document.Cursor

/-!
# Numbers of scalars

The texts of scalars that are tagged as numbers. Underscores between digits count for nothing. A
colon stands between the digits of a number in base sixty.
-/

namespace HomeCatalog.Yaml

/-- The value of a digit in bases up to sixteen: a decimal digit of any script, or a letter. -/
def digitIn? (base : Nat) (c : Char) : Option Nat :=
  let n := if 'a' ≤ c ∧ c ≤ 'z' then some (c.toNat - 87)
    else if 'A' ≤ c ∧ c ≤ 'Z' then some (c.toNat - 55)
    else Text.digitValue? c
  n.filter (· < base)

/-- The letters that may stand between a zero and the digits of a base. -/
def baseLetters : Nat → List Char
  | 2 => ['b', 'B']
  | 8 => ['o', 'O']
  | 16 => ['x', 'X']
  | _ => []

/-- The most decimal digits that a number may have. -/
def maxDigits : Nat := 4300

/-- Check that a text spells a whole number in a base, with blanks around it and a sign in front. -/
def checkDigits (base : Nat) (cs : List Char) : Except Fault Unit :=
  let (_, body) := Decimal.splitSign (Text.stripChars cs)
  let digits := match body with
    | '0' :: letter :: ds => if (baseLetters base).contains letter then ds else body
    | _ => body
  if digits.isEmpty || !digits.all (fun c => (digitIn? base c).isSome) then .error .number
  else if base = 10 && digits.length > maxDigits then .error .number
  else .ok ()

/-- Check that the text of a scalar spells a whole number. -/
def checkWhole (s : String) : Except Fault Unit :=
  let cs := s.toList.filter (· ≠ '_')
  if cs.isEmpty then .error .emptyNumber
  else match (Decimal.splitSign cs).2 with
    | [] => .error .emptyNumber
    | ['0'] => .ok ()
    | '0' :: 'b' :: ds => checkDigits 2 ds
    | '0' :: 'x' :: ds => checkDigits 16 ds
    | '0' :: ds => checkDigits 8 ('0' :: ds)
    | body => (Text.pieces ':' body).forM (checkDigits 10)

/-- Whether a text spells a number that may have a fraction, with blanks around it. -/
def isFractional (cs : List Char) : Bool :=
  let (_, body) := Decimal.splitSign (Decimal.plainChars (Text.stripChars cs))
  match Decimal.special? body with
  | some .infinite => true
  | some _ => body.length = 3
  | none =>
    let whole := body.takeWhile (·.isDigit)
    let (fraction, rest) : List Char × List Char :=
      match body.dropWhile (·.isDigit) with
      | '.' :: rest => (rest.takeWhile (·.isDigit), rest.dropWhile (·.isDigit))
      | rest => ([], rest)
    !(whole.isEmpty && fraction.isEmpty) && (Decimal.scale? rest).isSome

/-- The most parts of a number in base sixty that may have a fraction: the next power of sixty is
out of range. -/
def maxFractionalParts : Nat := 174

/-- Check that some parts are those of a number in base sixty that may have a fraction. -/
def checkSixties (parts : List (List Char)) : Except Fault Unit :=
  if !parts.all isFractional then .error .number
  else if parts.length > maxFractionalParts then .error .numberTooGreat
  else .ok ()

/-- Check that the text of a scalar spells a number that may have a fraction. -/
def checkFractional (s : String) : Except Fault Unit :=
  let cs := s.toList.filter (· ≠ '_')
  if cs.isEmpty then .error .emptyNumber
  else
    let body := (Decimal.splitSign cs).2
    let word := body.map Char.toLower
    if word = ['.', 'i', 'n', 'f'] || word = ['.', 'n', 'a', 'n'] then .ok ()
    else if body.contains ':' then checkSixties (Text.pieces ':' body)
    else if isFractional body then .ok ()
    else .error .number

end HomeCatalog.Yaml
