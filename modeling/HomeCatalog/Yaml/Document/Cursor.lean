import HomeCatalog.Yaml.Basic

/-!
# Places in a YAML text

A cursor is what is left of a text, with the line and the column where that begins. Five characters
end a line; a line feed after a carriage return belongs to it.
-/

namespace HomeCatalog.Yaml

namespace Fault

/-- An escape names a code point that there is not. -/
def codePoint (n : Nat) : Fault :=
  unread (if n < 0x80000000 then "no code point" else "code point out of range")

/-- A number that cannot be read. -/
def number : Fault := unread "no number"

/-- A number without digits. -/
def emptyNumber : Fault := unread "number without digits"

/-- A number that is too great. -/
def numberTooGreat : Fault := unread "number out of range"

/-- A text that is tagged as a truth value but is none. -/
def truthWord : Fault := unread "no truth value"

/-- A text that is tagged as a date but is none. -/
def noDate : Fault := unread "no date"

/-- A date or a time that there is not. -/
def impossibleDate : Fault := unread "date out of range"

/-- A mapping that is tagged as a date and stands for a scalar. -/
def dateOfParts : Fault := unread "date of parts"

end Fault

/-- A character that ends a line. -/
def isBreak (c : Char) : Bool :=
  c == '\r' || c == '\n' || c == '\u0085' || c == '\u2028' || c == '\u2029'

/-- A space, a tab or the end of a line. -/
def isGap (c : Char) : Bool :=
  c == ' ' || c == '\t' || isBreak c

/-- The end of the text or of a line, or a gap. -/
def gapOrEnd (c : Option Char) : Bool :=
  c.all isGap

/-- The end of the text or of a line, or a space. -/
def spaceOrEnd (c : Option Char) : Bool :=
  c.all fun c => c == ' ' || isBreak c

/-- The end of the text or of a line. -/
def breakOrEnd (c : Option Char) : Bool :=
  c.all isBreak

/-- The characters of names, handles and directives. -/
def isNameChar (c : Char) : Bool :=
  c.isAlphanum || c == '-' || c == '_'

/-- A character that a document may hold. -/
def isDocumentChar (c : Char) : Bool :=
  let n := c.toNat
  n == 0x9 || n == 0xA || n == 0xD || (0x20 ≤ n && n ≤ 0x7E) || n == 0x85 ||
    (0xA0 ≤ n && n ≤ 0xFFFD) || 0x10000 ≤ n

/-- A place in a text. -/
structure Cursor where
  rest : List Char
  line : Nat := 0
  column : Nat := 0
  /-- The number of characters before the place. -/
  index : Nat := 0

namespace Cursor

/-- The next character. -/
def peek (c : Cursor) : Option Char :=
  c.rest.head?

/-- A later character. -/
def peekAt (c : Cursor) (n : Nat) : Option Char :=
  c.rest[n]?

/-- Whether the next character is this one. -/
def sees (c : Cursor) (ch : Char) : Bool :=
  c.peek == some ch

/-- The place after the next character. A byte-order mark has no width. -/
def next (c : Cursor) : Cursor :=
  match c.rest with
  | [] => c
  | ch :: rest =>
    let endsLine := isBreak ch && !(ch == '\r' && rest.head? == some '\n')
    { rest, index := c.index + 1,
      line := if endsLine then c.line + 1 else c.line,
      column := if endsLine then 0 else if ch == '\uFEFF' then c.column else c.column + 1 }

/-- The place some characters on. -/
def forward : Nat → Cursor → Cursor
  | 0, c => c
  | n + 1, c => forward n c.next

/-- The next characters that satisfy a condition, and the place after them. -/
def span (good : Char → Bool) (c : Cursor) : List Char × Cursor :=
  let taken := c.rest.takeWhile good
  (taken, forward taken.length c)

/-- The place after the next characters that satisfy a condition. -/
def skip (good : Char → Bool) (c : Cursor) : Cursor :=
  (c.span good).2

/-- The place after the spaces that come next. -/
def skipSpaces (c : Cursor) : Cursor :=
  c.skip (· == ' ')

/-- What the end of a line stands for, and the place after it; nothing if no line ends here. -/
def lineBreak (c : Cursor) : List Char × Cursor :=
  match c.rest with
  | '\r' :: '\n' :: _ => (['\n'], forward 2 c)
  | ch :: _ =>
    if ch == '\u2028' || ch == '\u2029' then ([ch], c.next)
    else if isBreak ch then (['\n'], c.next)
    else ([], c)
  | [] => ([], c)

/-- Whether the mark of a document's beginning or end comes next. -/
def atDocumentMark (c : Cursor) : Bool :=
  match c.rest with
  | '-' :: '-' :: '-' :: rest => gapOrEnd rest.head?
  | '.' :: '.' :: '.' :: rest => gapOrEnd rest.head?
  | _ => false

end Cursor

end HomeCatalog.Yaml
