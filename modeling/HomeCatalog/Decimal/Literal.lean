import HomeCatalog.Decimal.Basic

/-!
# Decimal literals

What a text may say as a decimal: a sign, digits of any script with an optional point, and an
exponent; or an infinity; or a value that is not a number. Underscores count for nothing wherever
they stand. `Literal.ofChars?` refuses every other text, and numbers whose exponent is out of range.
-/

namespace HomeCatalog.Decimal

/-- The meaning of a decimal literal. -/
inductive Literal
  | finite (d : Decimal)
  | infinite
  | notANumber
deriving DecidableEq, Repr

/-- Digits of every script as the digits zero to nine, and no underscores. -/
def plainChars (cs : List Char) : List Char :=
  (cs.filter (· ≠ '_')).map fun c =>
    match Text.digitValue? c with
    | some v => Nat.digitChar v
    | none => c

/-- An optional sign, and what follows it. -/
def splitSign : List Char → Bool × List Char
  | '-' :: cs => (true, cs)
  | '+' :: cs => (false, cs)
  | cs => (false, cs)

/-- Whether there is a digit at all and digits only. -/
def allDigits (cs : List Char) : Bool :=
  !cs.isEmpty && cs.all (·.isDigit)

/-- The exponent that the end of a literal gives: none at all counts as zero. -/
def scale? : List Char → Option Int
  | [] => some 0
  | c :: cs =>
    if c = 'e' ∨ c = 'E' then
      let (negative, ds) := splitSign cs
      if allDigits ds then
        some (if negative then -(digitsValue ds : Int) else digitsValue ds)
      else none
    else none

/-- A decimal out of a literal without its sign. -/
def unsigned? (negative : Bool) (cs : List Char) : Option Decimal :=
  let whole := cs.takeWhile (·.isDigit)
  let (fraction, rest) : List Char × List Char :=
    match cs.dropWhile (·.isDigit) with
    | '.' :: rest => (rest.takeWhile (·.isDigit), rest.dropWhile (·.isDigit))
    | rest => ([], rest)
  if whole.isEmpty && fraction.isEmpty then none
  else (scale? rest).bind fun scale =>
    let d := ofParts negative whole fraction scale
    if d.InRange then some d else none

/-- A word that stands for a value other than a finite number. -/
def special? (cs : List Char) : Option Literal :=
  let word := cs.map Char.toLower
  if word = ['i', 'n', 'f'] ∨ word = ['i', 'n', 'f', 'i', 'n', 'i', 't', 'y'] then some .infinite
  else
    let payload? := match word with
      | 'n' :: 'a' :: 'n' :: rest => some rest
      | 's' :: 'n' :: 'a' :: 'n' :: rest => some rest
      | _ => none
    match payload? with
    | some rest => if rest.all (·.isDigit) then some .notANumber else none
    | none => none

/-- The meaning of a text without blanks around it. -/
def Literal.ofChars? (cs : List Char) : Option Literal :=
  let (negative, body) := splitSign (plainChars cs)
  match special? body with
  | some l => some l
  | none => (unsigned? negative body).map .finite

end HomeCatalog.Decimal
