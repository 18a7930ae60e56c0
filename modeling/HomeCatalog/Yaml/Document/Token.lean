import HomeCatalog.Text.Utf8
import HomeCatalog.Yaml.Document.Number
import HomeCatalog.Yaml.Document.Scalar

/-!
# Tokens

The tokens of a YAML text, and the reading of those that have a form of their own: directives,
anchors and tags. A tag is a handle, which a directive may give a meaning, and a suffix; a tag that
is written out has no handle.
-/

namespace HomeCatalog.Yaml

/-- A token. Blocks begin and end by indentation and have tokens of their own for it. -/
inductive Token
  /-- The major number of a version directive. -/
  | version (major : Nat)
  /-- A directive that gives a handle its meaning. -/
  | handle (name meaning : String)
  /-- A directive of another kind. -/
  | directive
  | documentStart
  | documentEnd
  | blockSequence
  | blockMapping
  | blockEnd
  | flowSequence
  | flowSequenceEnd
  | flowMapping
  | flowMappingEnd
  /-- The dash in front of an entry. -/
  | blockEntry
  /-- The comma between two entries. -/
  | flowEntry
  | key
  | value
  | alias (name : String)
  | anchor (name : String)
  | tag (handle? : Option String) (suffix : String)
  | scalar (text : List Letter) (plain : Bool)
deriving DecidableEq, Repr

namespace Cursor

/-! ## Anchors -/

/-- A name of an anchor and the place after it. Only a gap or a sign may follow. -/
def anchorName (c : Cursor) : Except Fault (String × Cursor) :=
  let (name, after) := c.span isNameChar
  if name.isEmpty then .error .malformed
  else if gapOrEnd after.peek || after.peek.any "?:,]\x7d%@`".toList.contains then
    .ok (String.ofList name, after)
  else .error .malformed

/-! ## Tags -/

/-- A character of a tag besides the percent sign, which begins a coded byte. -/
def isTagChar (c : Char) : Bool :=
  c.isAlphanum || "-;/?:@&=+$,_.!~*'()[]".toList.contains c

/-- Bytes coded by a percent sign and two hexadecimal digits each. -/
def codedBytes (fuel : Nat) (bytes : List UInt8) (c : Cursor) :
    Except Fault (List UInt8 × Cursor) :=
  match fuel with
  | 0 => .ok (bytes, c)
  | fuel + 1 =>
    match c.rest with
    | '%' :: a :: b :: _ =>
      match hexNumber? [a, b] with
      | some n => codedBytes fuel (bytes ++ [UInt8.ofNat n]) (c.forward 3)
      | none => .error .malformed
    | '%' :: _ => .error .malformed
    | _ => .ok (bytes, c)

/-- The rest of a tag, with its coded bytes read as UTF-8. -/
def tagTextFrom (fuel : Nat) (text : List Char) (c : Cursor) :
    Except Fault (List Char × Cursor) :=
  match fuel with
  | 0 => .ok (text, c)
  | fuel + 1 =>
    let (taken, c) := c.span isTagChar
    let text := text ++ taken
    if c.sees '%' then
      match codedBytes (c.rest.length + 1) [] c with
      | .error e => .error e
      | .ok (bytes, c) =>
        match Text.decodeUtf8 bytes with
        | .error _ => .error .malformed
        | .ok cs => tagTextFrom fuel (text ++ cs) c
    else .ok (text, c)

/-- The text of a tag, not empty. -/
def tagText (c : Cursor) : Except Fault (String × Cursor) := do
  let (text, c) ← tagTextFrom (c.rest.length + 1) [] c
  if text.isEmpty then .error .malformed else return (String.ofList text, c)

/-- A handle: one exclamation mark in front of a space, or two with a name between them. -/
def tagHandle (c : Cursor) : Except Fault (String × Cursor) :=
  if !c.sees '!' then .error .malformed
  else if c.peekAt 1 = some ' ' then .ok ("!", c.next)
  else
    let (name, after) := c.next.span isNameChar
    if after.sees '!' then .ok (String.ofList ('!' :: name ++ ['!']), after.next)
    else .error .malformed

/-- A tag, from its exclamation mark on. -/
def tag (c : Cursor) : Except Fault (Token × Cursor) := do
  let (token, c) ←
    if c.peekAt 1 = some '<' then do
      let (suffix, c) ← (c.forward 2).tagText
      if c.sees '>' then pure (Token.tag none suffix, c.next) else .error .malformed
    else if gapOrEnd (c.peekAt 1) then pure (Token.tag none "!", c.next)
    else do
      let word := c.next.rest.takeWhile fun ch => ch != ' ' && !isBreak ch
      let (handle, c) ← if word.contains '!' then c.tagHandle else pure ("!", c.next)
      let (suffix, c) ← c.tagText
      pure (Token.tag (some handle) suffix, c)
  if spaceOrEnd c.peek then return (token, c) else .error .malformed

/-! ## Directives -/

/-- A number of a version. -/
def versionNumber (c : Cursor) : Except Fault (Nat × Cursor) :=
  let (digits, after) := c.span (·.isDigit)
  if digits.isEmpty then .error .malformed
  else if digits.length > maxDigits then .error .number
  else .ok (digits.foldl (fun n d => 10 * n + (d.toNat - 48)) 0, after)

/-- A version directive after its name. -/
def versionDirective (c : Cursor) : Except Fault (Token × Cursor) := do
  let (major, c) ← c.skipSpaces.versionNumber
  if !c.sees '.' then .error .malformed
  else
    let (_, c) ← c.next.versionNumber
    if spaceOrEnd c.peek then return (.version major, c) else .error .malformed

/-- A directive about a handle after its name. -/
def handleDirective (c : Cursor) : Except Fault (Token × Cursor) := do
  let (name, c) ← c.skipSpaces.tagHandle
  if !c.sees ' ' then .error .malformed
  else
    let (meaning, c) ← c.skipSpaces.tagText
    if spaceOrEnd c.peek then return (.handle name meaning, c) else .error .malformed

/-- A directive, from its percent sign to the end of its line. -/
def directive (c : Cursor) : Except Fault (Token × Cursor) := do
  let (name, c) := c.next.span isNameChar
  if name.isEmpty || !spaceOrEnd c.peek then .error .malformed
  else
    let (token, c) ←
      if name = ['Y', 'A', 'M', 'L'] then c.versionDirective
      else if name = ['T', 'A', 'G'] then c.handleDirective
      else pure (Token.directive, c.skip (!isBreak ·))
    return (token, ← emptyRest c)

end Cursor

end HomeCatalog.Yaml
