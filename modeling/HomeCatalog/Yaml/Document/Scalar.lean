import HomeCatalog.Yaml.Document.Cursor

/-!
# Scalars

The text of a scalar in each of its forms: plain, between single or double quotes, and as a block of
lines. Line ends inside a scalar are folded: one becomes a space, and of several the first is
dropped. Every function returns the place after the scalar. `fuel` bounds the number of rounds and
is at least the number of characters left.
-/

namespace HomeCatalog.Yaml

/-- What folded line ends stand for: the first of them, and those after it. -/
def folded (first others : List Char) : List Char :=
  (if first != ['\n'] then first else if others.isEmpty then [' '] else []) ++ others

/-! ## Plain scalars -/

/-- The number of characters that a plain scalar takes here, up to a gap or a character with a
meaning of its own. -/
def plainLength (inFlow : Bool) : List Char → Nat
  | [] => 0
  | c :: cs =>
    let signFollows := inFlow && cs.head?.any ",[]\x7b\x7d".toList.contains
    if isGap c then 0
    else if c == ':' && (gapOrEnd cs.head? || signFollows) then 0
    else if inFlow && ",?[]\x7b\x7d".toList.contains c then 0
    else 1 + plainLength inFlow cs

/-- The line ends and spaces inside a plain scalar after a first line end; none in front of the mark
of a document. -/
def plainBreaks (fuel : Nat) (c : Cursor) (breaks : List Char) : Option (List Char) × Cursor :=
  match fuel with
  | 0 => (some breaks, c)
  | fuel + 1 =>
    if c.sees ' ' then plainBreaks fuel c.next breaks
    else if c.peek.any isBreak then
      let (lb, c) := c.lineBreak
      if c.atDocumentMark then (none, c) else plainBreaks fuel c (breaks ++ lb)
    else (some breaks, c)

/-- What stands between two parts of a plain scalar, and whether a line ends there. -/
def plainGap (c : Cursor) : List Char × Bool × Cursor :=
  let (spaces, c) := c.span (· == ' ')
  if c.peek.any isBreak then
    let (first, c) := c.lineBreak
    if c.atDocumentMark then ([], true, c)
    else match plainBreaks (c.rest.length + 1) c [] with
      | (some others, c) => (folded first others, true, c)
      | (none, c) => ([], true, c)
  else (spaces, false, c)

/-- The rest of a plain scalar that reads `text` so far, with what stands between that and the next
part. Lines that go on are indented by `indent`. The answer tells whether a line ends behind it. -/
def plainFrom (fuel : Nat) (inFlow : Bool) (indent : Int) (text between : List Char)
    (crossed : Bool) (c : Cursor) : List Char × Bool × Cursor :=
  match fuel with
  | 0 => (text, crossed, c)
  | fuel + 1 =>
    let n := plainLength inFlow c.rest
    if c.sees '#' || n = 0 then (text, crossed, c)
    else
      let text := text ++ between ++ c.rest.take n
      let (between, crossed, c) := plainGap (c.forward n)
      if between.isEmpty || c.sees '#' || (!inFlow && (c.column : Int) < indent) then
        (text, crossed, c)
      else plainFrom fuel inFlow indent text between crossed c

/-- A plain scalar. -/
def plainScalar (inFlow : Bool) (indent : Int) (c : Cursor) : List Char × Bool × Cursor :=
  plainFrom (c.rest.length + 1) inFlow indent [] [] false c

/-! ## Quoted scalars -/

/-- The character of a letter after a backslash. -/
def escape? : Char → Option Char
  | '0' => some '\x00'
  | 'a' => some '\x07'
  | 'b' => some '\x08'
  | 't' => some '\t'
  | '\t' => some '\t'
  | 'n' => some '\n'
  | 'v' => some '\x0b'
  | 'f' => some '\x0c'
  | 'r' => some '\r'
  | 'e' => some '\x1b'
  | ' ' => some ' '
  | '"' => some '"'
  | '\\' => some '\\'
  | '/' => some '/'
  | 'N' => some '\u0085'
  | '_' => some '\u00a0'
  | 'L' => some '\u2028'
  | 'P' => some '\u2029'
  | _ => none

/-- The number of hexadecimal digits after a letter. -/
def escapeDigits? : Char → Option Nat
  | 'x' => some 2
  | 'u' => some 4
  | 'U' => some 8
  | _ => none

/-- The value of a hexadecimal digit. -/
def hexDigit? (c : Char) : Option Nat :=
  if c.isDigit then some (c.toNat - 48)
  else if 'a' ≤ c ∧ c ≤ 'f' then some (c.toNat - 87)
  else if 'A' ≤ c ∧ c ≤ 'F' then some (c.toNat - 55)
  else none

/-- The number that hexadecimal digits spell, if they are digits. -/
def hexNumber? (cs : List Char) : Option Nat :=
  cs.foldlM (fun n c => (hexDigit? c).map (n * 16 + ·)) 0

/-- The line ends after a first one, and the gaps around them. -/
def quotedBreaks (fuel : Nat) (c : Cursor) (breaks : List Char) :
    Except Fault (List Char × Cursor) :=
  match fuel with
  | 0 => .ok (breaks, c)
  | fuel + 1 =>
    if c.atDocumentMark then .error .malformed
    else
      let c := c.skip fun ch => ch == ' ' || ch == '\t'
      if c.peek.any isBreak then
        let (lb, c) := c.lineBreak
        quotedBreaks fuel c (breaks ++ lb)
      else .ok (breaks, c)

/-- A gap between two parts of a quoted scalar. -/
def quotedGap (c : Cursor) : Except Fault (List Char × Cursor) :=
  let (blanks, after) := c.span fun ch => ch == ' ' || ch == '\t'
  match after.peek with
  | none => .error .malformed
  | some ch =>
    if isBreak ch then
      let (first, c) := after.lineBreak
      (quotedBreaks (c.rest.length + 1) c []).map fun (others, c) => (folded first others, c)
    else .ok (blanks, after)

/-- The number that so many hexadecimal digits spell here, and the place after them. -/
def hexNumber (n : Nat) (c : Cursor) : Except Fault (Nat × Cursor) :=
  let digits := c.rest.take n
  match hexNumber? digits with
  | none => .error .malformed
  | some code => if digits.length < n then .error .malformed else .ok (code, c.forward n)

/-- The letter of a code point that an escape names, and the place after the escape. -/
def escaped (code : Nat) (c : Cursor) : Except Fault (List Letter × Cursor) :=
  if 0x110000 ≤ code then .error (.codePoint code) else .ok ([.ofCode code], c)

/-- What a backslash and what follows it stand for; the backslash has been passed. -/
def quotedEscape (c : Cursor) : Except Fault (List Letter × Cursor) :=
  match c.peek with
  | none => .error .malformed
  | some ch =>
    match escape? ch, escapeDigits? ch with
    | some d, _ => .ok ([.char d], c.next)
    | none, some n => (hexNumber n c.next).bind fun (code, after) => escaped code after
    | none, none =>
      if isBreak ch then
        let (_, c) := c.lineBreak
        (quotedBreaks (c.rest.length + 1) c []).map fun (breaks, c) => (breaks.map .char, c)
      else .error .malformed

/-- The rest of a quoted scalar that reads `text` so far. -/
def quotedFrom (fuel : Nat) (quote : Char) (text : List Letter) (c : Cursor) :
    Except Fault (List Letter × Cursor) :=
  match fuel with
  | 0 => .error .malformed
  | fuel + 1 =>
    match c.peek with
    | none => .error .malformed
    | some ch =>
      if ch == quote then
        if quote == '\'' && c.peekAt 1 == some '\'' then
          quotedFrom fuel quote (text ++ [.char '\'']) (c.forward 2)
        else .ok (text, c.next)
      else if quote == '"' && ch == '\\' then
        match quotedEscape c.next with
        | .error e => .error e
        | .ok (more, c) => quotedFrom fuel quote (text ++ more) c
      else if isGap ch then
        match quotedGap c with
        | .error e => .error e
        | .ok (more, c) => quotedFrom fuel quote (text ++ more.map .char) c
      else quotedFrom fuel quote (text ++ [.char ch]) c.next

/-- A quoted scalar, from its opening quote on. -/
def quotedScalar (quote : Char) (c : Cursor) : Except Fault (List Letter × Cursor) :=
  quotedFrom (c.rest.length + 1) quote [] c.next

/-! ## Blocks of lines -/

/-- Which line ends a block keeps at its end. -/
inductive Chomping
  | strip
  /-- The first of them. -/
  | clip
  | keep
deriving DecidableEq, Repr

/-- The sign of a chomping. -/
def chomping? : Option Char → Option Chomping
  | some '+' => some .keep
  | some '-' => some .strip
  | _ => none

/-- A number for the indentation of a block. -/
def indicator? : Option Char → Option Nat
  | some c => if c.isDigit then some (c.toNat - 48) else none
  | none => none

/-- The chomping and the indentation that a block begins with, in either order. -/
def blockIndicators (c : Cursor) : Except Fault (Chomping × Option Nat × Cursor) :=
  let (chomping, indent, c) : Option Chomping × Option Nat × Cursor :=
    match chomping? c.peek, indicator? c.peek with
    | some k, _ =>
      match indicator? c.next.peek with
      | some n => (some k, some n, c.forward 2)
      | none => (some k, none, c.next)
    | none, some n =>
      match chomping? c.next.peek with
      | some k => (some k, some n, c.forward 2)
      | none => (none, some n, c.next)
    | none, none => (none, none, c)
  if indent = some 0 || !spaceOrEnd c.peek then .error .malformed
  else .ok (chomping.getD .clip, indent, c)

/-- The rest of a line that may hold nothing but a comment. -/
def emptyRest (c : Cursor) : Except Fault Cursor :=
  let c := c.skipSpaces
  let c := if c.sees '#' then c.skip (!isBreak ·) else c
  if breakOrEnd c.peek then .ok c.lineBreak.2 else .error .malformed

/-- The empty lines in front of a block, and the deepest indentation among them and the line after.
-/
def blockMargin (fuel : Nat) (breaks : List Char) (deepest : Nat) (c : Cursor) :
    List Char × Nat × Cursor :=
  match fuel with
  | 0 => (breaks, deepest, c)
  | fuel + 1 =>
    if c.sees ' ' then blockMargin fuel breaks (max deepest c.next.column) c.next
    else if c.peek.any isBreak then
      let (lb, c) := c.lineBreak
      blockMargin fuel (breaks ++ lb) deepest c
    else (breaks, deepest, c)

/-- The place after the spaces of an indentation, as far as they go. -/
def skipIndent (fuel indent : Nat) (c : Cursor) : Cursor :=
  match fuel with
  | 0 => c
  | fuel + 1 => if c.column < indent && c.sees ' ' then skipIndent fuel indent c.next else c

/-- The line ends here and on the lines after that hold nothing but indentation. -/
def blockBreaks (fuel indent : Nat) (breaks : List Char) (c : Cursor) : List Char × Cursor :=
  match fuel with
  | 0 => (breaks, c)
  | fuel + 1 =>
    let c := skipIndent (indent + 1) indent c
    if c.peek.any isBreak then
      let (lb, c) := c.lineBreak
      blockBreaks fuel indent (breaks ++ lb) c
    else (breaks, c)

/-- The lines of a block after those that read `text`, `breaks` being the empty lines before the
next. The answer also has the end of the last line and the empty lines after it. -/
def blockLines (fuel indent : Nat) (fold : Bool) (text breaks : List Char) (c : Cursor) :
    List Char × List Char × List Char × Cursor :=
  match fuel with
  | 0 => (text, [], breaks, c)
  | fuel + 1 =>
    if c.column ≠ indent || c.peek.isNone then (text, [], breaks, c)
    else
      let flush := c.peek.any fun ch => ch != ' ' && ch != '\t'
      let (line, c) := c.span (!isBreak ·)
      let text := text ++ breaks ++ line
      let (lb, c) := c.lineBreak
      let (breaks, c) := blockBreaks (c.rest.length + 1) indent [] c
      if c.column = indent && c.peek.isSome then
        let nextFlush := c.peek.any fun ch => ch != ' ' && ch != '\t'
        let joint :=
          if fold && lb == ['\n'] && flush && nextFlush then
            if breaks.isEmpty then [' '] else []
          else lb
        blockLines fuel indent fold (text ++ joint) breaks c
      else (text, lb, breaks, c)

/-- A block of lines, from its sign on, inside a structure indented by `indent`. -/
def blockScalar (fold : Bool) (indent : Int) (c : Cursor) : Except Fault (List Char × Cursor) := do
  let (chomping, number, c) ← blockIndicators c.next
  let c ← emptyRest c
  let least := max 1 (indent + 1).toNat
  let (margin, breaks, c) : Nat × List Char × Cursor :=
    match number with
    | some n =>
      let margin := least + n - 1
      let (breaks, c) := blockBreaks (c.rest.length + 1) margin [] c
      (margin, breaks, c)
    | none =>
      let (breaks, deepest, c) := blockMargin (c.rest.length + 1) [] 0 c
      (max least deepest, breaks, c)
  let (text, lastBreak, after, c) := blockLines (c.rest.length + 1) margin fold [] breaks c
  return (match chomping with
    | .strip => text
    | .clip => text ++ lastBreak
    | .keep => text ++ lastBreak ++ after, c)

end HomeCatalog.Yaml
