import HomeCatalog.Pattern.Basic
import HomeCatalog.Text.Letters
import HomeCatalog.Text.Name

/-!
# Reading patterns

`Pattern.Node.read` reads a regular expression. An expression is a list of tokens, which are
characters and characters after a backslash; its grammar is that of alternatives, of sequences of
pieces, and of groups, which begin with a parenthesis and may say what they are for. A text that is
no expression has no pattern, and one that asks for more than there can be has none either; which
of the two is found first counts. Some flaws are looked for only when all has been read: the width
of what is looked behind for, repetitions where there are to be none, and groups that conditions ask
for.

An expression may give a character by its name. What the names of characters are is not said here:
reading asks a table, `CharacterNames`.

Reading keeps count of the groups: what they are called, which of them are closed and how wide they
can be, since a look behind needs to know how far back to go. `fuel` bounds the depth of groups and
the number of pieces together, and is taken from the number of tokens.
-/

namespace HomeCatalog.Pattern

/-! ## Problems -/

/-- What an expression may ask for in good form and not get. -/
inductive Limit
  /-- A count of repetitions that is too great. -/
  | count
  /-- A count of repetitions of more digits than are read. -/
  | countDigits
  /-- Classes of both kinds for the whole expression. -/
  | classes
  /-- A character whose number is too great. -/
  | character
deriving DecidableEq, Repr

/-- The limit in words. -/
def Limit.message : Limit → String
  | .count => "the repetition number is too large"
  | .countDigits => "the repetition number has too many digits"
  | .classes => "ASCII and UNICODE flags are incompatible"
  | .character => "the number of a character is too large"

/-- Why a text has no pattern. -/
inductive Problem
  | malformed
  | limit (l : Limit)
deriving DecidableEq, Repr

/-- The character of a name, if some character has it. -/
abbrev CharacterNames := String → Option Char

/-! ## Tokens, switches and widths -/

/-- A character of an expression, or a character after a backslash. Half a surrogate pair stands for
itself either way. -/
inductive Token
  | plain (c : Char)
  | escaped (c : Char)
  | half (code : Nat)
deriving DecidableEq, Repr

/-- The tokens of an expression, and whether it ends in a lone backslash behind them. -/
def tokens : List Letter → List Token × Bool
  | [] => ([], false)
  | .char '\\' :: .char c :: ls => ((tokens ls).1.cons (.escaped c), (tokens ls).2)
  | .char '\\' :: l :: ls => ((tokens ls).1.cons (.half l.code), (tokens ls).2)
  | .char '\\' :: [] => ([], true)
  | .char c :: ls => ((tokens ls).1.cons (.plain c), (tokens ls).2)
  | l :: ls => ((tokens ls).1.cons (.half l.code), (tokens ls).2)

/-- The characters of a token as written; half a surrogate pair has none. -/
def Token.chars? : Token → Option (List Char)
  | plain c => some [c]
  | escaped c => some ['\\', c]
  | half _ => none

/-- The switches that an expression can turn on and off. -/
inductive Switch
  | ignoreCase
  | everyLine
  | lineEnds
  | commented
  | ascii
  | unicode
  | noRepeats
deriving DecidableEq, Repr

/-- The switch of a letter. -/
def Switch.ofChar? : Char → Option Switch
  | 'i' => some ignoreCase
  | 'm' => some everyLine
  | 's' => some lineEnds
  | 'x' => some commented
  | 'a' => some ascii
  | 'u' => some unicode
  | 't' => some noRepeats
  | _ => none

/-- The switches that are on. -/
structure Mode where
  ignoreCase : Bool := false
  everyLine : Bool := false
  lineEnds : Bool := false
  /-- White space and comments in the expression say nothing. -/
  commented : Bool := false
  ascii : Bool := false
  noRepeats : Bool := false
deriving Repr

namespace Mode

/-- The mode with a switch turned. -/
def turn (m : Mode) (on : Bool) : Switch → Mode
  | .ignoreCase => { m with ignoreCase := on }
  | .everyLine => { m with everyLine := on }
  | .lineEnds => { m with lineEnds := on }
  | .commented => { m with commented := on }
  | .ascii => { m with ascii := on }
  | .unicode => { m with ascii := !on }
  | .noRepeats => { m with noRepeats := on }

/-- When two characters count as the same. -/
def rule (m : Mode) : CaseRule :=
  if !m.ignoreCase then .exact else if m.ascii then .ascii else .full

/-- The pattern of a set of characters. -/
def set (m : Mode) (negated : Bool) (items : List SetItem) : Node :=
  .set negated items m.rule m.ascii

/-- The pattern of one character. -/
def char (m : Mode) (c : Char) : Node :=
  m.set false [.range c.toNat c.toNat]

end Mode

/-- The fewest and the most characters that a pattern takes; no most if there is no bound. -/
structure Width where
  least : Nat
  most : Option Nat
deriving DecidableEq, Repr

namespace Width

/-- No characters. -/
def zero : Width := ⟨0, some 0⟩

/-- One character. -/
def one : Width := ⟨1, some 1⟩

/-- The width of one after the other. -/
def add (a b : Width) : Width :=
  ⟨a.least + b.least, do return (← a.most) + (← b.most)⟩

/-- The width of one or the other. -/
def union (a b : Width) : Width :=
  ⟨min a.least b.least, do return max (← a.most) (← b.most)⟩

/-- The width of a repetition. -/
def times (a : Width) (least : Nat) (most : Option Nat) : Width :=
  ⟨a.least * least,
    match a.most, most with
    | some 0, _ | _, some 0 => some 0
    | some w, some n => some (w * n)
    | _, _ => none⟩

end Width

/-! ## The state of reading -/

/-- What has been read and what is left to read. -/
structure Cursor where
  left : List Token
  /-- What characters are called. -/
  named : CharacterNames
  /-- The widths of the groups so far, the last first; none for one that is still open. -/
  groups : List (Option Width) := []
  /-- The numbers of the named groups. -/
  names : List (String × Nat) := []
  /-- Inside a look behind, the number of groups before it. -/
  groupsBefore : Option Nat := none
  /-- The greatest number of a group that a condition asks for. -/
  asked : Nat := 0
  /-- The switches that are on everywhere. -/
  mode : Mode := {}
  /-- The letters that turned them on. -/
  everywhere : List Switch := []
  /-- There is a flaw that is looked for when all has been read. -/
  flawed : Bool := false
  /-- The expression ends in a lone backslash, right behind what is left. -/
  unfinished : Bool := false

/-- A step of reading, which fails where the text is no expression. -/
abbrev Reading := StateT Cursor (Except Problem)

/-- The text is no expression. -/
def malformed {α : Type} : Reading α :=
  throw .malformed

/-- There is a flaw, which ends the reading only where nothing else does. -/
def flaw : Reading Unit :=
  modify fun c => { c with flawed := true }

/-- The next token is left where it is. -/
def peek? : Reading (Option Token) := do
  return (← get).left.head?

/-- The next token is taken. -/
def take? : Reading (Option Token) := do
  let c ← get
  set { c with left := c.left.drop 1 }
  return c.left.head?

/-- The next token is taken if it is this character. -/
def accept (ch : Char) : Reading Bool := do
  if (← peek?) = some (.plain ch) then
    let _ ← take?
    return true
  else return false

/-- The next token has to be this character. -/
def expect (ch : Char) : Reading Unit := do
  if !(← accept ch) then malformed

/-- The next tokens are taken, at most `count`, while they satisfy a condition. -/
def takeWhile (count : Nat) (good : Char → Bool) : Reading (List Char) :=
  match count with
  | 0 => return []
  | count + 1 => do
    match ← peek? with
    | some (.plain c) =>
      if good c then
        let _ ← take?
        return c :: (← takeWhile count good)
      else return []
    | _ => return []

/-- The characters up to a terminator, which is taken too; at least one. -/
def takeUntil (terminator : Char) : Reading (List Char) := do
  let c ← get
  let taken := c.left.takeWhile (· != .plain terminator)
  if taken.isEmpty || taken.length = c.left.length then malformed
  set { c with left := c.left.drop (taken.length + 1) }
  match taken.mapM Token.chars? with
  | some parts => return parts.flatten
  | none => malformed

/-- The width of a group, if it is closed. -/
def closedWidth? (number : Nat) : Reading (Option Width) := do
  let groups := (← get).groups
  if number = 0 then return none
  return (groups.reverse[number - 1]?).join

/-- A group that is closed and, inside a look behind, was there before it. -/
def usableGroup (number : Nat) : Reading Width := do
  match ← closedWidth? number with
  | none => malformed
  | some w =>
    match (← get).groupsBefore with
    | some n => if n < number then malformed else return w
    | none => return w

/-! ## Escapes -/

/-- The character of a letter after a backslash. -/
def controlEscape? : Char → Option Char
  | 'a' => some '\x07'
  | 'b' => some '\x08'
  | 'f' => some '\x0c'
  | 'n' => some '\n'
  | 'r' => some '\r'
  | 't' => some '\t'
  | 'v' => some '\x0b'
  | '\\' => some '\\'
  | _ => none

/-- The class of a letter after a backslash. -/
def categoryEscape? : Char → Option SetItem
  | 'd' => some (.category .digit false)
  | 'D' => some (.category .digit true)
  | 's' => some (.category .space false)
  | 'S' => some (.category .space true)
  | 'w' => some (.category .word false)
  | 'W' => some (.category .word true)
  | _ => none

/-- The place of a letter after a backslash. -/
def placeEscape? (m : Mode) : Char → Option Node
  | 'A' => some (.lineStart false)
  | 'Z' => some .textEnd
  | 'b' => some (.wordEdge false m.ascii)
  | 'B' => some (.wordEdge true m.ascii)
  | _ => none

/-- The value of a hexadecimal digit. -/
def hexDigit? (c : Char) : Option Nat :=
  if c.isDigit then some (c.toNat - 48)
  else if 'a' ≤ c ∧ c ≤ 'f' then some (c.toNat - 87)
  else if 'A' ≤ c ∧ c ≤ 'F' then some (c.toNat - 55)
  else none

/-- A digit of a number in base eight. -/
def isOctalDigit (c : Char) : Bool :=
  '0' ≤ c && c ≤ '7'

/-- The number that digits spell. -/
def number (base : Nat) (digits : List Char) : Nat :=
  digits.foldl (fun n c => n * base + (hexDigit? c).getD 0) 0

/-- Nothing is left but a lone backslash. -/
def atLoneBackslash : Reading Bool := do
  let c ← get
  return c.left.isEmpty && c.unfinished

/-- The number that a code point has to stay below, if it is not to be too great to be looked at. -/
def codePointLimit : Nat := 0x80000000

/-- A code point given by just so many hexadecimal digits. A lone backslash right behind them is
found before their number is looked at. -/
def hexEscape (digits : Nat) : Reading Nat := do
  let ds ← takeWhile digits fun c => (hexDigit? c).isSome
  let n := number 16 ds
  if ds.length < digits || (← atLoneBackslash) then malformed
  if codePointLimit ≤ n then throw (.limit .character)
  if 0x110000 ≤ n then malformed else return n

/-- The code point of a character given by its name between braces. -/
def namedEscape : Reading Nat := do
  expect '\x7b'
  let name ← takeUntil '\x7d'
  match (← get).named (String.ofList name) with
  | some c => return c.toNat
  | none => malformed

/-- The code point of an escape that means the same inside and outside of a set. -/
def commonEscape (c : Char) : Reading Nat :=
  match c with
  | 'x' => hexEscape 2
  | 'u' => hexEscape 4
  | 'U' => hexEscape 8
  | 'N' => namedEscape
  | c => if c.isAlphanum then malformed else return c.toNat

/-- A part of a set that an escape stands for. -/
def setEscape (c : Char) : Reading SetItem := do
  match controlEscape? c, categoryEscape? c with
  | some d, _ => return .range d.toNat d.toNat
  | none, some k => return k
  | none, none =>
    if isOctalDigit c then
      let n := number 8 (c :: (← takeWhile 2 isOctalDigit))
      if n > 0o377 then malformed
      return .range n n
    else
      let n ← commonEscape c
      return .range n n

/-! ## Pieces -/

/-- Whether a repetition may follow a piece. -/
inductive Role
  /-- It may. -/
  | ordinary
  /-- A place has nothing to repeat. -/
  | place
  /-- A repetition is not repeated. -/
  | repetition
deriving DecidableEq, Repr

/-- A piece of an expression. -/
structure Piece where
  node : Node
  width : Width
  role : Role := .ordinary

/-- The pieces of a sequence as one. -/
def sequenceOf (pieces : List Piece) : Node × Width :=
  pieces.foldr (fun p s => (.seq p.node s.1, p.width.add s.2)) (.empty, .zero)

/-- What a number after a backslash refers to: a character in base eight, or a group. -/
def numberEscape (m : Mode) (c : Char) : Reading Piece := do
  let digits ← do
    if c = '0' then pure (c :: (← takeWhile 2 isOctalDigit))
    else
      let more ← takeWhile 1 (·.isDigit)
      if isOctalDigit c && !more.isEmpty && more.all isOctalDigit then
        pure (c :: more ++ (← takeWhile 1 isOctalDigit))
      else pure (c :: more)
  if c = '0' || digits.length = 3 then
    let n := number 8 digits
    if n > 0o377 then malformed
    return ⟨m.char (Char.ofNat n), .one, .ordinary⟩
  else
    let n := number 10 digits
    return ⟨.recall n m.rule, ← usableGroup n, .ordinary⟩

/-- The piece that an escape stands for. -/
def escape (m : Mode) (c : Char) : Reading Piece :=
  match placeEscape? m c, categoryEscape? c, controlEscape? c with
  | some place, _, _ => return ⟨place, .zero, .place⟩
  | _, some k, _ => return ⟨m.set false [k], .one, .ordinary⟩
  | _, _, some d => return ⟨m.char d, .one, .ordinary⟩
  | none, none, none =>
    if c.isDigit then numberEscape m c
    else do
      let n ← commonEscape c
      return ⟨m.set false [.range n n], .one, .ordinary⟩

/-- One end of a range, or a part of a set on its own. -/
def setPart : Token → Reading SetItem
  | .plain c => return .range c.toNat c.toNat
  | .escaped c => setEscape c
  | .half n => return .range n n

/-- The range between two parts of a set, which have to be characters in order. -/
def rangeOf (a b : SetItem) : Reading SetItem :=
  match a, b with
  | .range c _, .range d _ => if d < c then malformed else return .range c d
  | _, _ => malformed

/-- The parts of a set up to its closing bracket. A bracket right at the beginning is a part. -/
def setItems (fuel : Nat) (atStart : Bool) : Reading (List SetItem) :=
  match fuel with
  | 0 => malformed
  | fuel + 1 => do
    match ← take? with
    | none => malformed
    | some t =>
      if t = .plain ']' && !atStart then return []
      let a ← setPart t
      if ← accept '-' then
        match ← take? with
        | none => malformed
        | some (.plain ']') => return [a, .range '-'.toNat '-'.toNat]
        | some u => return (← rangeOf a (← setPart u)) :: (← setItems fuel false)
      else return a :: (← setItems fuel false)

/-- The least count of repetitions that is too great. -/
def countLimit : Nat := 4294967295

/-- The most digits that a count is read with. -/
def maxCountDigits : Nat := 4300

/-- The count that digits spell. -/
def repetitionCount (digits : List Char) : Reading Nat :=
  if digits.length > maxCountDigits then throw (.limit .countDigits)
  else if countLimit ≤ number 10 digits then throw (.limit .count)
  else return number 10 digits

/-- The bounds in braces, the opening one having been taken; none if these are no bounds, and then
nothing more is taken. A backslash that ends the expression right behind them is found before
their counts are looked at. -/
def bounds? : Reading (Option (Nat × Option Nat)) := do
  let start ← get
  if (← peek?) = some (.plain '\x7d') then return none
  let tokenCount := start.left.length
  let low ← takeWhile tokenCount (·.isDigit)
  let high ← do
    if ← accept ',' then takeWhile tokenCount (·.isDigit) else pure low
  if ← accept '\x7d' then
    if ← atLoneBackslash then malformed
    let least ← repetitionCount low
    let most ← if high.isEmpty then pure none else some <$> repetitionCount high
    if most.any (· < least) then malformed
    return some (least, most)
  else
    set start
    return none

/-- The pieces with the last of them repeated. -/
def repeated (m : Mode) (pieces : List Piece) (least : Nat) (most : Option Nat) :
    Reading (List Piece) := do
  if m.noRepeats then flaw
  match pieces with
  | [] => malformed
  | p :: before =>
    if p.role != .ordinary then malformed
    let eagerness : Eagerness ← do
      if ← accept '?' then pure .lazy
      else if ← accept '+' then pure .possessive
      else pure .greedy
    let n := Node.repetition least most eagerness p.node
    return ⟨n, p.width.times least most, .repetition⟩ :: before

/-! ## Groups -/

/-- The switches that letters name, and the token after them. -/
def switches (fuel : Nat) (t : Option Token) : Reading (List Switch × Option Token) :=
  match fuel with
  | 0 => malformed
  | fuel + 1 =>
    match t with
    | some (.plain c) =>
      match Switch.ofChar? c with
      | none => return ([], t)
      | some s => do
        let (more, after) ← switches fuel (← take?)
        return (s :: more, after)
    | t => return ([], t)

/-- Switches that exclude each other. -/
def clash (on : List Switch) : Bool :=
  on.contains .ascii && on.contains .unicode

/-- What the letters of a group turn on and off: for the whole expression, or inside the group. -/
def switchGroup (t : Token) : Reading (Bool × List Switch × List Switch) := do
  let fuel := (← get).left.length + 2
  let (on, after) ← switches fuel (some t)
  if clash on then malformed
  match after with
  | some (.plain ')') => if on.isEmpty then malformed else return (true, on, [])
  | some (.plain ':') =>
    if on.isEmpty || on.contains .noRepeats then malformed
    return (false, on, [])
  | some (.plain '-') =>
    let (off, after) ← switches fuel (← take?)
    if off.isEmpty || after != some (.plain ':') then malformed
    if on.contains .noRepeats || off.any fun s => s = .noRepeats || s = .ascii || s = .unicode then
      malformed
    if on.any off.contains then malformed
    return (false, on, off)
  | _ => malformed

/-- Open a group: its number. -/
def openGroup (name : Option String) : Reading Nat := do
  let c ← get
  let number := c.groups.length + 1
  match name with
  | none => set { c with groups := none :: c.groups }
  | some name =>
    if (c.names.lookup name).isSome then malformed
    set { c with groups := none :: c.groups, names := (name, number) :: c.names }
  return number

/-- Close a group: its width is known. -/
def closeGroup (number : Nat) (w : Width) : Reading Unit :=
  modify fun c => { c with groups := (c.groups.reverse.set (number - 1) (some w)).reverse }

/-- The name of a group up to a terminator. -/
def groupName (terminator : Char) : Reading String := do
  let cs ← takeUntil terminator
  if Text.isName cs then return String.ofList cs else malformed

/-- The digits of a number of any script; an underscore may stand between two of them. -/
def spacedDigits? : List Char → Option (List Nat)
  | [] => none
  | [c] => (Text.digitValue? c).map ([·])
  | c :: '_' :: cs => do return (← Text.digitValue? c) :: (← spacedDigits? cs)
  | c :: cs => do return (← Text.digitValue? c) :: (← spacedDigits? cs)

/-- A blank around a number: the separators of ASCII are none. -/
def isNumberBlank (c : Char) : Bool :=
  Text.isBlank c && !('\x1c' ≤ c && c ≤ '\x1f')

/-- The number of a group as text: blanks around it, a plus sign, and not too many digits. -/
def groupNumber? (cs : List Char) : Option Nat := do
  let stripped := (((cs.dropWhile isNumberBlank).reverse).dropWhile isNumberBlank).reverse
  let digits ← spacedDigits? (match stripped with
    | '+' :: cs => cs
    | cs => cs)
  guard (digits.length ≤ maxCountDigits)
  return digits.foldl (fun n d => 10 * n + d) 0

/-- There are fewer groups than this. -/
def maxGroups : Nat := 1073741823

/-- The number of the group that a condition asks for. -/
def conditionGroup : Reading Nat := do
  let cs ← takeUntil ')'
  let number ←
    if Text.isName cs then
      match (← get).names.lookup (String.ofList cs) with
      | some n => pure n
      | none => malformed
    else
      match groupNumber? cs with
      | some n => if n = 0 || maxGroups ≤ n then malformed else pure n
      | none => malformed
  modify fun c => { c with asked := max c.asked number }
  if (← get).groupsBefore.isSome then
    let _ ← usableGroup number
  return number

/-- The most characters that a look behind goes back. -/
def maxWidthBehind : Nat := 4294967295

/-- White space between the pieces of a commented expression. -/
def isGap (c : Char) : Bool :=
  " \t\n\r\x0b\x0c".toList.contains c

mutual

/-- Alternatives up to the end or a closing parenthesis. -/
def alternatives (fuel : Nat) (m : Mode) (nested : Bool) (first : Bool) :
    Reading (Node × Width) :=
  match fuel with
  | 0 => malformed
  | fuel + 1 => do
    let a := sequenceOf (← pieces fuel m (first && !nested) []).reverse
    if ← accept '|' then
      let everywhere := (← get).mode
      let b ← alternatives fuel (if nested then m else everywhere) nested false
      return (.alt a.1 b.1, a.2.union b.2)
    else return a

/-- The pieces of a sequence after those so far, the last first. -/
def pieces (fuel : Nat) (m : Mode) (first : Bool) (sofar : List Piece) : Reading (List Piece) :=
  match fuel with
  | 0 => malformed
  | fuel + 1 => do
    let leaf := fun (n : Node) => pieces fuel m first (⟨n, .one, .ordinary⟩ :: sofar)
    let place := fun (n : Node) => pieces fuel m first (⟨n, .zero, .place⟩ :: sofar)
    match ← peek? with
    | none => return sofar
    | some (.plain '|') => return sofar
    | some (.plain ')') => return sofar
    | some (.half n) =>
      let _ ← take?
      leaf (m.set false [.range n n])
    | some (.escaped c) =>
      let _ ← take?
      pieces fuel m first ((← escape m c) :: sofar)
    | some (.plain c) =>
      let _ ← take?
      if m.commented && isGap c then pieces fuel m first sofar
      else if m.commented && c = '#' then
        modify fun s => { s with left := (s.left.dropWhile (· != .plain '\n')).drop 1 }
        pieces fuel m first sofar
      else match c with
        | '[' =>
          let negated ← accept '^'
          let items ← setItems ((← get).left.length + 1) true
          leaf (m.set negated items)
        | '.' => leaf (.any m.lineEnds)
        | '^' => place (.lineStart m.everyLine)
        | '$' => place (.lineEnd m.everyLine)
        | '*' => pieces fuel m first (← repeated m sofar 0 none)
        | '+' => pieces fuel m first (← repeated m sofar 1 none)
        | '?' => pieces fuel m first (← repeated m sofar 0 (some 1))
        | '\x7b' =>
          match ← bounds? with
          | some (least, most) => pieces fuel m first (← repeated m sofar least most)
          | none => leaf (m.char c)
        | '(' =>
          if ← accept '?' then
            match ← take? with
            | none => malformed
            | some t => specialGroup fuel m first sofar t
          else pieces fuel m first ((← captured fuel m none) :: sofar)
        | c => leaf (m.char c)

/-- The rest of a group that is remembered. -/
def captured (fuel : Nat) (m : Mode) (name : Option String) : Reading Piece :=
  match fuel with
  | 0 => malformed
  | fuel + 1 => do
    let number ← openGroup name
    let (n, w) ← alternatives fuel m true true
    expect ')'
    closeGroup number w
    return ⟨.group number n, w, .ordinary⟩

/-- The rest of a group that says what it is for, and the pieces after it. -/
def specialGroup (fuel : Nat) (m : Mode) (first : Bool) (sofar : List Piece) (t : Token) :
    Reading (List Piece) :=
  match fuel with
  | 0 => malformed
  | fuel + 1 => do
    match t with
    | .plain 'P' =>
      if ← accept '<' then
        let name ← groupName '>'
        pieces fuel m first ((← captured fuel m (some name)) :: sofar)
      else if ← accept '=' then
        let name ← groupName ')'
        match (← get).names.lookup name with
        | none => malformed
        | some number =>
          pieces fuel m first (⟨.recall number m.rule, ← usableGroup number, .ordinary⟩ :: sofar)
      else malformed
    | .plain ':' =>
      let (n, w) ← alternatives fuel m true true
      expect ')'
      pieces fuel m first (⟨n, w, .ordinary⟩ :: sofar)
    | .plain '#' =>
      modify fun s => { s with left := s.left.dropWhile (· != .plain ')') }
      expect ')'
      pieces fuel m first sofar
    | .plain '=' => pieces fuel m first ((← looking fuel m false) :: sofar)
    | .plain '!' => pieces fuel m first ((← looking fuel m true) :: sofar)
    | .plain '<' =>
      if ← accept '=' then pieces fuel m first ((← lookingBack fuel m false) :: sofar)
      else if ← accept '!' then pieces fuel m first ((← lookingBack fuel m true) :: sofar)
      else malformed
    | .plain '(' =>
      let number ← conditionGroup
      let a := sequenceOf (← pieces fuel m false []).reverse
      let b ← do
        if ← accept '|' then pure (sequenceOf (← pieces fuel m false []).reverse)
        else pure (.empty, .zero)
      expect ')'
      pieces fuel m first (⟨.provided number a.1 b.1, a.2.union b.2, .ordinary⟩ :: sofar)
    | .plain '>' =>
      let (n, w) ← alternatives fuel m true true
      expect ')'
      pieces fuel m first (⟨.atomic n, w, .ordinary⟩ :: sofar)
    | t =>
      let (everywhere, on, off) ← switchGroup t
      let inside := off.foldl (·.turn false) (on.foldl (·.turn true) m)
      if everywhere then
        if !first || !sofar.isEmpty then malformed
        modify fun s => { s with mode := inside, everywhere := on ++ s.everywhere }
        pieces fuel inside first sofar
      else
        let (n, w) ← alternatives fuel inside true true
        expect ')'
        pieces fuel m first (⟨n, w, .ordinary⟩ :: sofar)

/-- The rest of a group that looks ahead. Nothing is found everywhere, so its absence is nowhere. -/
def looking (fuel : Nat) (m : Mode) (negated : Bool) : Reading Piece :=
  match fuel with
  | 0 => malformed
  | fuel + 1 => do
    let (n, _) ← alternatives fuel m true true
    expect ')'
    return ⟨.ahead negated n, .zero, .ordinary⟩

/-- The rest of a group that looks behind, which has to be of one width. -/
def lookingBack (fuel : Nat) (m : Mode) (negated : Bool) : Reading Piece :=
  match fuel with
  | 0 => malformed
  | fuel + 1 => do
    let outside := (← get).groupsBefore
    modify fun c => { c with groupsBefore := some (outside.getD c.groups.length) }
    let (n, w) ← alternatives fuel m true true
    modify fun c => { c with groupsBefore := outside }
    expect ')'
    if w.most != some w.least || maxWidthBehind < w.least then flaw
    return ⟨.behind negated w.least n, .zero, .ordinary⟩

end

/-- A whole expression. A backslash at the end is found as soon as all that stands before it is
taken; a parenthesis too many, a group that is asked for in vain and other flaws are found last. -/
def expression (fuel : Nat) : Reading Node := do
  let (n, _) ← alternatives fuel {} false true
  if ← atLoneBackslash then malformed
  let c ← get
  if clash c.everywhere then throw (.limit .classes)
  if c.left.isEmpty && c.asked ≤ c.groups.length && !c.flawed then return n else malformed

/-- The pattern of a regular expression. -/
def Node.read (named : CharacterNames) (s : Letters) : Except Problem Node :=
  let (left, unfinished) := tokens s.list
  ((expression (4 * left.length + 4)).run { left, named, unfinished }).map (·.1)

/-- The pattern of a regular expression without names of characters, if it has one. -/
def Node.ofString? (s : String) : Option Node :=
  (Node.read (fun _ => none) s).toOption

end HomeCatalog.Pattern
