import HomeCatalog.Yaml.Document.Token

/-!
# The tokens of a text

`tokens` cuts a text into tokens. Outside brackets, indentation opens and closes blocks. A key
without a sign of its own is known only by the colon after it, so a place where one may have begun
is kept until the end of its line, and the colon puts the key's sign there afterwards.

Where a text cannot be cut any further, the tokens up to there are still good for reading nodes,
but for those that a key's sign may yet be put in front of: a fault in the nodes comes first.
-/

namespace HomeCatalog.Yaml

/-- A place where a key may have begun. -/
structure PossibleKey where
  /-- The number of tokens before it. -/
  position : Nat
  /-- Whether nothing but a key may stand there. -/
  required : Bool
  index : Nat
  line : Nat
  column : Nat

/-- How far a text has been cut. -/
structure Cutting where
  cursor : Cursor
  tokens : List Token := []
  /-- The number of open brackets. -/
  depth : Nat := 0
  /-- The column of the innermost block, below zero outside all blocks. -/
  indent : Int := -1
  outerIndents : List Int := []
  /-- Whether a key may begin here. -/
  keyAllowed : Bool := true
  /-- The possible key within each number of brackets. -/
  possibleKeys : List (Nat × PossibleKey) := []

namespace Cutting

/-- The most characters that a key without a sign takes. -/
def maxKeyLength : Nat := 1024

/-- The state with another token. -/
def push (s : Cutting) (t : Token) : Cutting :=
  { s with tokens := s.tokens ++ [t] }

/-- The state with a token put in front of those after a position. -/
def insert (s : Cutting) (position : Nat) (t : Token) : Cutting :=
  { s with tokens := s.tokens.insertIdx position t }

/-- The state after a token of some characters. -/
def take (s : Cutting) (n : Nat) (t : Token) : Cutting :=
  { s.push t with cursor := s.cursor.forward n }

/-! ## Possible keys -/

/-- The possible key within the open brackets. -/
def possibleKey? (s : Cutting) : Option PossibleKey :=
  s.possibleKeys.lookup s.depth

/-- The state without the possible key within the open brackets. -/
def dropKey (s : Cutting) : Cutting :=
  { s with possibleKeys := s.possibleKeys.filter fun e => e.1 != s.depth }

/-- Give up the possible key within the open brackets. -/
def abandonKey (s : Cutting) : Except Fault Cutting :=
  if s.possibleKey?.any (·.required) then .error .malformed else .ok s.dropKey

/-- Whether a possible key lies too far back. -/
def isStale (s : Cutting) (k : PossibleKey) : Bool :=
  k.line != s.cursor.line || s.cursor.index - k.index > maxKeyLength

/-- Give up the possible keys that lie too far back. -/
def abandonStaleKeys (s : Cutting) : Except Fault Cutting :=
  if s.possibleKeys.any fun e => s.isStale e.2 && e.2.required then .error .malformed
  else .ok { s with possibleKeys := s.possibleKeys.filter fun e => !s.isStale e.2 }

/-- Remember that a key may begin with the next token. -/
def markKey (s : Cutting) : Except Fault Cutting :=
  if s.keyAllowed then do
    let k : PossibleKey :=
      { position := s.tokens.length,
        required := s.depth = 0 && s.indent = (s.cursor.column : Int),
        index := s.cursor.index, line := s.cursor.line, column := s.cursor.column }
    let s ← s.abandonKey
    return { s with possibleKeys := (s.depth, k) :: s.possibleKeys }
  else .ok s

/-! ## Blocks -/

/-- The number of blocks to close at a column, and the indents that are left. -/
def closeBlocks (column : Int) (indent : Int) : List Int → Nat × Int × List Int
  | [] => if indent > column then (1, -1, []) else (0, indent, [])
  | outer :: rest =>
    if indent > column then
      let (n, indents) := closeBlocks column outer rest
      (n + 1, indents)
    else (0, indent, outer :: rest)

/-- Close the blocks that are indented more than a column. -/
def unwind (s : Cutting) (column : Int) : Cutting :=
  if s.depth = 0 then
    let (n, indent, outerIndents) := closeBlocks column s.indent s.outerIndents
    { s with tokens := s.tokens ++ List.replicate n .blockEnd, indent, outerIndents }
  else s

/-- Whether a block at a column lies inside the innermost one. -/
def isDeeper (s : Cutting) (column : Nat) : Bool :=
  s.indent < (column : Int)

/-- Make a column the innermost block. -/
def enterBlock (s : Cutting) (column : Nat) : Cutting :=
  { s with indent := column, outerIndents := s.indent :: s.outerIndents }

/-- Open a block here, if its entries do not go on with the innermost one. Outside brackets a sign
of an entry has to stand where a key may begin. -/
def openBlock (s : Cutting) (t : Token) : Except Fault Cutting :=
  if s.depth ≠ 0 then .ok s
  else if !s.keyAllowed then .error .malformed
  else if s.isDeeper s.cursor.column then .ok ((s.enterBlock s.cursor.column).push t)
  else .ok s

/-! ## Tokens of each kind -/

/-- The dash of an entry. -/
def blockEntry (s : Cutting) : Except Fault Cutting := do
  let s ← s.openBlock .blockSequence
  let s ← { s with keyAllowed := true }.abandonKey
  return s.take 1 .blockEntry

/-- The sign of a key. -/
def keySign (s : Cutting) : Except Fault Cutting := do
  let s ← s.openBlock .blockMapping
  let s ← { s with keyAllowed := s.depth = 0 }.abandonKey
  return s.take 1 .key

/-- The colon in front of a value. -/
def valueSign (s : Cutting) : Except Fault Cutting :=
  match s.possibleKey? with
  | some k =>
    let s := s.dropKey.insert k.position .key
    let s :=
      if s.depth = 0 && s.isDeeper k.column then
        (s.enterBlock k.column).insert k.position .blockMapping
      else s
    .ok ({ s with keyAllowed := false }.take 1 .value)
  | none => do
    let s ← s.openBlock .blockMapping
    return { s with keyAllowed := s.depth = 0 }.take 1 .value

/-- An opening bracket. -/
def openBracket (s : Cutting) (t : Token) : Except Fault Cutting := do
  let s ← s.markKey
  return { s with depth := s.depth + 1, keyAllowed := true }.take 1 t

/-- A closing bracket. -/
def closeBracket (s : Cutting) (t : Token) : Except Fault Cutting := do
  if s.depth = 0 then .error .malformed
  else
    let s ← s.abandonKey
    return { s with depth := s.depth - 1, keyAllowed := false }.take 1 t

/-- A comma. -/
def flowEntry (s : Cutting) : Except Fault Cutting := do
  let s ← { s with keyAllowed := true }.abandonKey
  return s.take 1 .flowEntry

/-- The mark of a document's beginning or end. -/
def documentMark (s : Cutting) (t : Token) : Except Fault Cutting := do
  let s ← (s.unwind (-1)).abandonKey
  return { s with keyAllowed := false }.take 3 t

/-- A directive. -/
def directive (s : Cutting) : Except Fault Cutting := do
  let s ← (s.unwind (-1)).abandonKey
  let (t, cursor) ← s.cursor.directive
  return { s.push t with cursor, keyAllowed := false }

/-- A token with which a key may begin. -/
def keyStart (s : Cutting) (read : Cursor → Except Fault (Token × Cursor)) :
    Except Fault Cutting := do
  let s ← s.markKey
  let (t, cursor) ← read s.cursor
  return { s.push t with cursor, keyAllowed := false }

/-- A block of lines. -/
def blockOfLines (s : Cutting) (fold : Bool) : Except Fault Cutting := do
  let s ← { s with keyAllowed := true }.abandonKey
  let (text, cursor) ← blockScalar fold s.indent s.cursor
  return { s.push (.scalar (text.map .char) false) with cursor }

/-- A plain scalar. If a line ends behind it, a key may begin there. -/
def plain (s : Cutting) : Except Fault Cutting := do
  let s ← s.markKey
  let (text, crossed, cursor) := plainScalar (s.depth ≠ 0) (s.indent + 1) s.cursor
  return { s.push (.scalar (text.map .char) true) with cursor, keyAllowed := crossed }

/-! ## The next token -/

/-- The place after spaces, comments and line ends, and whether a line ends before it. -/
def skipToToken (fuel : Nat) (crossed : Bool) (c : Cursor) : Bool × Cursor :=
  match fuel with
  | 0 => (crossed, c)
  | fuel + 1 =>
    let c := c.skipSpaces
    let c := if c.sees '#' then c.skip (!isBreak ·) else c
    if c.peek.any isBreak then skipToToken fuel true c.lineBreak.2 else (crossed, c)

/-- The state in front of the next token. -/
def approach (s : Cutting) : Except Fault Cutting := do
  let c := s.cursor
  let c := if c.index = 0 && c.sees '\uFEFF' then c.next else c
  let (crossed, c) := skipToToken (c.rest.length + 1) false c
  let s := { s with cursor := c, keyAllowed := s.keyAllowed || (crossed && s.depth = 0) }
  let s ← s.abandonStaleKeys
  return s.unwind c.column

/-- Whether a plain scalar may begin with a character, seeing the one after it. -/
def beginsPlain (inFlow : Bool) (ch : Char) (after : Option Char) : Bool :=
  !isGap ch && !"-?:,[]\x7b\x7d#&*!|>'\"%@`".toList.contains ch ||
    !gapOrEnd after && (ch == '-' || (!inFlow && (ch == '?' || ch == ':')))

/-- The state after the next token, which begins with this character. -/
def next (s : Cutting) (ch : Char) : Except Fault Cutting :=
  let c := s.cursor
  let inFlow := s.depth ≠ 0
  let gapFollows := gapOrEnd (c.peekAt 1)
  if c.column = 0 && ch == '%' then s.directive
  else if c.column = 0 && ch == '-' && c.atDocumentMark then s.documentMark .documentStart
  else if c.column = 0 && ch == '.' && c.atDocumentMark then s.documentMark .documentEnd
  else if ch == '[' then s.openBracket .flowSequence
  else if ch == '\x7b' then s.openBracket .flowMapping
  else if ch == ']' then s.closeBracket .flowSequenceEnd
  else if ch == '\x7d' then s.closeBracket .flowMappingEnd
  else if ch == ',' then s.flowEntry
  else if ch == '-' && gapFollows then s.blockEntry
  else if ch == '?' && (inFlow || gapFollows) then s.keySign
  else if ch == ':' && (inFlow || gapFollows) then s.valueSign
  else if ch == '*' then
    s.keyStart fun c => c.next.anchorName.map fun (name, c) => (.alias name, c)
  else if ch == '&' then
    s.keyStart fun c => c.next.anchorName.map fun (name, c) => (.anchor name, c)
  else if ch == '!' then s.keyStart Cursor.tag
  else if ch == '|' && !inFlow then s.blockOfLines false
  else if ch == '>' && !inFlow then s.blockOfLines true
  else if ch == '\'' || ch == '"' then
    s.keyStart fun c => (quotedScalar ch c).map fun (text, c) => (.scalar text false, c)
  else if beginsPlain inFlow ch (c.peekAt 1) then s.plain
  else .error .malformed

/-- The tokens in front of every place where a key may have begun. -/
def released (s : Cutting) : List Token :=
  let open_ := s.possibleKeys.filter fun e => !s.isStale e.2
  open_.foldl (fun ts e => ts.take e.2.position) s.tokens

/-- The state after the next token; none if there are no more. -/
def advance? (s : Cutting) : Except Fault (Option Cutting) := do
  let s ← s.approach
  match s.cursor.peek with
  | none => return none
  | some ch => return some (← s.next ch)

/-- The state at the end of the text, its blocks closed. -/
def closed (s : Cutting) : Except Fault Cutting := do
  let s ← s.approach
  (s.unwind (-1)).abandonKey

/-- The rest of the tokens, and the fault behind them. -/
def finish (fuel : Nat) (s : Cutting) : List Token × Option Fault :=
  match fuel with
  | 0 => (s.released, some .malformed)
  | fuel + 1 =>
    match s.advance? with
    | .error f => (s.released, some f)
    | .ok (some s) => s.finish fuel
    | .ok none =>
      match s.closed with
      | .error f => (s.released, some f)
      | .ok s => (s.tokens, none)

end Cutting

/-- The tokens of a text, and the fault behind them if they are not all. -/
def tokens (text : List Char) : List Token × Option Fault :=
  if text.all isDocumentChar then
    Cutting.finish (text.length + 1) { cursor := { rest := text } }
  else ([], some .malformed)

end HomeCatalog.Yaml
