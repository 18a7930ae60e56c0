import HomeCatalog.Text.Blank
import HomeCatalog.Text.Casing
import HomeCatalog.Text.Digit
import HomeCatalog.Text.Word

/-!
# Patterns

A pattern is a tree of the things that a regular expression is made of. What depends on the switches
of an expression (letter case, ASCII classes, lines) is fixed in the leaves, so a tree means the
same wherever it stands.
-/

namespace HomeCatalog

/-- When two characters count as the same. -/
inductive CaseRule
  | exact
  /-- The letters `a` to `z` are the same in either case. -/
  | ascii
  /-- All letters are the same in either case. -/
  | full
deriving DecidableEq, Repr

namespace CaseRule

/-- Whether two characters count as the same. -/
def same : CaseRule → Char → Char → Bool
  | exact, a, b => a == b
  | ascii, a, b => Text.sameAsciiLetter a b
  | full, a, b => Text.sameLetter a b

/-- All characters that count as the same as `c`. -/
def variants : CaseRule → Char → List Char
  | exact, c => [c]
  | ascii, c => [c, c.toLower, c.toUpper]
  | full, c => Text.caseVariants c

end CaseRule

namespace Pattern

/-- The classes of characters that have a letter of their own. -/
inductive Category
  | digit
  | space
  | word
deriving DecidableEq, Repr

/-- Whether a character is of a category. -/
def Category.has (ascii : Bool) (c : Char) : Category → Bool
  | digit => if ascii then c.isDigit else Text.isDigit c
  | space => if ascii then " \t\n\r\x0b\x0c".toList.contains c else Text.isBlank c
  | word => if ascii then Text.isAsciiWordChar c else Text.isWordChar c

/-- A part of a set of characters. -/
inductive SetItem
  /-- The code points from one to another. -/
  | range (first last : Nat)
  | category (k : Category) (negated : Bool)
deriving DecidableEq, Repr

/-- Whether a character belongs to a part of a set. -/
def SetItem.has (rule : CaseRule) (ascii : Bool) (c : Char) : SetItem → Bool
  | range first last =>
    if first = last then first.isValidChar && rule.same (Char.ofNat first) c
    else (rule.variants c).any fun v => first ≤ v.toNat && v.toNat ≤ last
  | category k negated => k.has ascii c != negated

/-- How a repetition tries counts. -/
inductive Eagerness
  /-- The most first. -/
  | greedy
  /-- The fewest first. -/
  | lazy
  /-- The most only. -/
  | possessive
deriving DecidableEq, Repr

/-- What a regular expression is made of. -/
inductive Node
  /-- Nothing, which is found everywhere. -/
  | empty
  /-- What is found nowhere. -/
  | never
  /-- One character in a set, or out of it. -/
  | set (negated : Bool) (items : List SetItem) (rule : CaseRule) (ascii : Bool)
  /-- One character; `lineEnds` admits the line feed. -/
  | any (lineEnds : Bool)
  /-- The beginning of the text, or of any line. -/
  | lineStart (everyLine : Bool)
  /-- The end of the text or of its last line, or of any line. -/
  | lineEnd (everyLine : Bool)
  /-- The end of the text. -/
  | textEnd
  /-- The edge of a word, or any other place. -/
  | wordEdge (negated ascii : Bool)
  /-- One after the other. -/
  | seq (a b : Node)
  /-- One, or else the other. -/
  | alt (a b : Node)
  /-- What is found here is remembered under a number. -/
  | group (number : Nat) (a : Node)
  /-- Once something is found here, nothing else is tried. -/
  | atomic (a : Node)
  /-- At least `least` times, and at most `most` if that is given. -/
  | repetition (least : Nat) (most : Option Nat) (eagerness : Eagerness) (a : Node)
  /-- What was remembered under a number. -/
  | recall (number : Nat) (rule : CaseRule)
  /-- Whether something is found from here on, or is not. -/
  | ahead (negated : Bool) (a : Node)
  /-- Whether something is found from `width` characters back, or is not. -/
  | behind (negated : Bool) (width : Nat) (a : Node)
  /-- One if something is remembered under a number, or else the other. -/
  | provided (number : Nat) (a b : Node)
deriving Repr, Inhabited

end Pattern

end HomeCatalog
