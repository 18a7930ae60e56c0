import HomeCatalog.Yaml.Document.Tag
import HomeCatalog.Yaml.Document.TokenStream

/-!
# Nodes

The tree of scalars, sequences and mappings that tokens spell. `Node.ofText?` reads a text of one
document; a text without any has no node. A node that is named by an anchor stands wherever an alias
repeats the name after it; an alias inside the node itself is a leaf, which stands for the node.
-/

namespace HomeCatalog.Yaml

/-- A node of a document, with the type of its value. -/
inductive Node
  | scalar (tag : Tag) (text : Letters)
  | sequence (tag : Tag) (items : List Node)
  | mapping (tag : Tag) (entries : List (Node × Node))
  /-- The node with this name, inside which the leaf stands. -/
  | above (name : String)
deriving Repr, Inhabited

namespace Node

/-- The node for nothing at all. -/
def nothing : Node :=
  .scalar .null ""

mutual

/-- The node with another put in for the leaves that stand for it. -/
def fill (name : String) (whole : Node) : Node → Node
  | .scalar tag text => .scalar tag text
  | .sequence tag items => .sequence tag (fillItems name whole items)
  | .mapping tag entries => .mapping tag (fillEntries name whole entries)
  | .above n => if n = name then whole else .above n

/-- The nodes with another put in for the leaves that stand for it. -/
def fillItems (name : String) (whole : Node) : List Node → List Node
  | [] => []
  | n :: rest => fill name whole n :: fillItems name whole rest

/-- The entries with another node put in for the leaves that stand for it. -/
def fillEntries (name : String) (whole : Node) : List (Node × Node) → List (Node × Node)
  | [] => []
  | (k, v) :: rest => (fill name whole k, fill name whole v) :: fillEntries name whole rest

end

mutual

/-- The number of nodes on the longest way down. -/
def depth : Node → Nat
  | .scalar _ _ => 1
  | .sequence _ items => 1 + depthOfItems items
  | .mapping _ entries => 1 + depthOfEntries entries
  | .above _ => 1

/-- The depth of the deepest of some nodes. -/
def depthOfItems : List Node → Nat
  | [] => 0
  | n :: rest => max (depth n) (depthOfItems rest)

/-- The depth of the deepest key or value. -/
def depthOfEntries : List (Node × Node) → Nat
  | [] => 0
  | (k, v) :: rest => max (max (depth k) (depth v)) (depthOfEntries rest)

end

end Node

/-- The tokens that are left, the fault behind them, and the names that have a meaning for them. -/
structure Progress where
  tokens : List Token
  fault : Option Fault := none
  /-- What the handles of tags stand for. -/
  handles : List (String × String) := []
  /-- The nodes with names; one that has not ended is a leaf for itself. -/
  anchors : List (String × Node) := []

/-- Reading nodes from tokens. -/
abbrev Reading := StateT Progress (Except Fault)

namespace Reading

/-- The text is no document of one value. -/
def malformed {α : Type} : Reading α :=
  throw .malformed

/-- The next token. The fault behind the tokens is found where one more is looked for. -/
def peek? : Reading (Option Token) := do
  let p ← get
  match p.tokens, p.fault with
  | [], some f => throw f
  | ts, _ => return ts.head?

/-- Pass the next token. -/
def skip : Reading Unit :=
  modify fun p => { p with tokens := p.tokens.tail }

/-- Whether one of some tokens comes next. -/
def sees (ts : List Token) : Reading Bool := do
  return (← peek?).any ts.contains

/-- Pass a token if it comes next, and tell whether it does. -/
def accept (t : Token) : Reading Bool := do
  if ← sees [t] then
    skip
    return true
  else return false

/-- Pass a token that has to come next. -/
def expect (t : Token) : Reading Unit := do
  unless ← accept t do malformed

/-- A node, unless one of some tokens comes next. -/
def unlessSees (stops : List Token) (read : Reading Node) : Reading Node := do
  if ← sees stops then return .nothing else read

/-! ## Names and tags -/

/-- What handles stand for when no directive says so. -/
def defaultHandles : List (String × String) :=
  [("!", "!"), ("!!", Tag.languagePart)]

/-- The text of a tag whose handle stands for something. -/
def tagText (handle? : Option String) (suffix : String) : Reading String := do
  match handle? with
  | none => return suffix
  | some handle =>
    match ((← get).handles ++ defaultHandles).lookup handle with
    | some meaning => return meaning ++ suffix
    | none => malformed

/-- An anchor, if one comes next. -/
def anchor? : Reading (Option String) := do
  match ← peek? with
  | some (.anchor name) =>
    skip
    return some name
  | _ => return none

/-- A tag, if one comes next: its handle and its suffix. -/
def tag? : Reading (Option (Option String × String)) := do
  match ← peek? with
  | some (.tag handle? suffix) =>
    skip
    return some (handle?, suffix)
  | _ => return none

/-- An anchor and a tag in either order, as far as they come next. -/
def properties : Reading (Option String × Option String) := do
  let before ← anchor?
  let tag ← tag?
  let name ← match before, tag with
    | none, some _ => anchor?
    | name, _ => pure name
  match tag with
  | none => return (name, none)
  | some (handle?, suffix) => return (name, some (← tagText handle? suffix))

/-- Give a node a new name. -/
def nameNode (name? : Option String) (n : Node) : Reading Unit :=
  match name? with
  | none => return ()
  | some name => modify fun p => { p with anchors := (name, n) :: p.anchors }

/-- The node of a name. -/
def named (name : String) : Reading Node := do
  match (← get).anchors.lookup name with
  | some n => return n
  | none => malformed

/-- A node with parts, which may speak of the node by its name. -/
def whole (name? : Option String) (parts : Reading Node) : Reading Node := do
  match name? with
  | none => parts
  | some name =>
    nameNode name? (.above name)
    let open_ ← parts
    let n := open_.fill name open_
    nameNode name? n
    return n

/-- The type of a node with parts. -/
def collectionTag (usual : Tag) : Option String → Tag
  | none | some "!" => usual
  | some tag => .ofString tag

/-- The type of a scalar. -/
def scalarTag (plain : Bool) (text : String) : Option String → Tag
  | none => if plain then .ofPlain text else .text
  | some "!" => .ofPlain text
  | some tag => .ofString tag

/-! ## Grammar -/

mutual

/-- A node. `dashes` allows a sequence whose dashes are not indented. -/
def node (fuel : Nat) (dashes : Bool) : Reading Node :=
  match fuel with
  | 0 => malformed
  | fuel + 1 => do
    if let some (.alias name) ← peek? then
      skip
      return ← named name
    let (name?, tag?) ← properties
    if let some name := name? then
      if ((← get).anchors.lookup name).isSome then malformed
    match ← peek? with
    | some (.scalar letters plain) =>
      skip
      let text : Letters := ⟨letters⟩
      let n := Node.scalar (scalarTag plain text.string tag?) text
      nameNode name? n
      return n
    | some .flowSequence =>
      skip
      whole name? do
        return .sequence (collectionTag .sequence tag?) (← flowItems fuel true)
    | some .flowMapping =>
      skip
      whole name? do
        return .mapping (collectionTag .mapping tag?) (← flowEntries fuel true)
    | some .blockSequence =>
      skip
      whole name? do
        return .sequence (collectionTag .sequence tag?) (← blockItems fuel)
    | some .blockMapping =>
      skip
      whole name? do
        return .mapping (collectionTag .mapping tag?) (← blockEntries fuel)
    | next =>
      if dashes && next = some .blockEntry then
        whole name? do
          return .sequence (collectionTag .sequence tag?) (← dashedItems fuel)
      else if name?.isNone && tag?.isNone then malformed
      else
        let n := Node.scalar (scalarTag true "" tag?) ""
        nameNode name? n
        return n

/-- The items of an indented sequence. -/
def blockItems (fuel : Nat) : Reading (List Node) :=
  match fuel with
  | 0 => malformed
  | fuel + 1 => do
    if ← accept .blockEntry then
      let n ← unlessSees [.blockEntry, .blockEnd] (node fuel false)
      return n :: (← blockItems fuel)
    else
      expect .blockEnd
      return []

/-- The items of a sequence that is not indented. -/
def dashedItems (fuel : Nat) : Reading (List Node) :=
  match fuel with
  | 0 => malformed
  | fuel + 1 => do
    if ← accept .blockEntry then
      let n ← unlessSees [.blockEntry, .key, .value, .blockEnd] (node fuel false)
      return n :: (← dashedItems fuel)
    else return []

/-- The entries of an indented mapping. -/
def blockEntries (fuel : Nat) : Reading (List (Node × Node)) :=
  match fuel with
  | 0 => malformed
  | fuel + 1 => do
    if ← accept .key then
      let stops := [Token.key, .value, .blockEnd]
      let k ← unlessSees stops (node fuel true)
      let v ← if ← accept .value then unlessSees stops (node fuel true) else pure .nothing
      return (k, v) :: (← blockEntries fuel)
    else
      expect .blockEnd
      return []

/-- An entry between brackets after the sign of its key. -/
def flowEntry (fuel : Nat) (close : Token) : Reading (Node × Node) :=
  match fuel with
  | 0 => malformed
  | fuel + 1 => do
    let k ← unlessSees [.value, .flowEntry, close] (node fuel false)
    let v ←
      if ← accept .value then unlessSees [.flowEntry, close] (node fuel false)
      else pure .nothing
    return (k, v)

/-- The items of a sequence between brackets. An item with a key is a mapping of one entry. -/
def flowItems (fuel : Nat) (first : Bool) : Reading (List Node) :=
  match fuel with
  | 0 => malformed
  | fuel + 1 => do
    if ← accept .flowSequenceEnd then return []
    unless first do expect .flowEntry
    if ← accept .key then
      let e ← flowEntry fuel .flowSequenceEnd
      return .mapping .mapping [e] :: (← flowItems fuel false)
    else if ← accept .flowSequenceEnd then return []
    else
      let n ← node fuel false
      return n :: (← flowItems fuel false)

/-- The entries of a mapping between brackets. An entry without the sign of a key has no value. -/
def flowEntries (fuel : Nat) (first : Bool) : Reading (List (Node × Node)) :=
  match fuel with
  | 0 => malformed
  | fuel + 1 => do
    if ← accept .flowMappingEnd then return []
    unless first do expect .flowEntry
    if ← accept .key then
      let e ← flowEntry fuel .flowMappingEnd
      return e :: (← flowEntries fuel false)
    else if ← accept .flowMappingEnd then return []
    else
      let n ← node fuel false
      return (n, .nothing) :: (← flowEntries fuel false)

end

/-! ## Documents -/

/-- The directives in front of a document. Only the first version may be named, once, and each
handle once. -/
def directives (fuel : Nat) (versionGiven : Bool) : Reading Unit :=
  match fuel with
  | 0 => malformed
  | fuel + 1 => do
    match ← peek? with
    | some (.version major) =>
      if versionGiven || major ≠ 1 then malformed
      skip
      directives fuel true
    | some (.handle name meaning) =>
      if ((← get).handles.lookup name).isSome then malformed
      modify fun p => { p with handles := (name, meaning) :: p.handles }
      skip
      directives fuel versionGiven
    | some .directive =>
      skip
      directives fuel versionGiven
    | _ => return ()

/-- Pass the marks of a document's end; nothing may follow them. -/
def ending (fuel : Nat) : Reading Unit :=
  match fuel with
  | 0 => malformed
  | fuel + 1 => do
    if ← accept .documentEnd then ending fuel
    else if (← peek?).isSome then malformed

/-- The rest of a document after the mark of its beginning. -/
def content (fuel : Nat) : Reading Node := do
  match ← peek? with
  | none => return .nothing
  | some (.version _) | some (.handle _ _) | some .directive | some .documentStart
  | some .documentEnd => return .nothing
  | _ => node fuel false

/-- The only document, if there is one. -/
def document (fuel : Nat) : Reading (Option Node) := do
  match ← peek? with
  | none => return none
  | some (.version _) | some (.handle _ _) | some .directive | some .documentStart =>
    directives fuel false
    expect .documentStart
    let n ← content fuel
    ending fuel
    return some n
  | _ =>
    let n ← node fuel false
    ending fuel
    return some n

end Reading

/-- The node of the only document of a text, if it has one. -/
def Node.ofText? (text : List Char) : Except Fault (Option Node) := do
  let (ts, fault) := tokens text
  let (n, _) ← (Reading.document (2 * ts.length + 2)).run { tokens := ts, fault }
  return n

end HomeCatalog.Yaml
