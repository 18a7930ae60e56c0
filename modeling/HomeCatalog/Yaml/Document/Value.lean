import HomeCatalog.Yaml.Document.Date
import HomeCatalog.Yaml.Document.Node
import HomeCatalog.Yaml.Document.Number

/-!
# Values of nodes

What the nodes of a document stand for. `Yaml.read` reads a text and is the reader that the program
comes with; nothing that is proved of settings rests on it. A mapping takes over the entries of the
mappings that its merge keys name, and its own entries win; of entries with equal texts as keys the
first place and the last value count. Only scalars are keys.

Of several faults the one nearest to the top is reported, and the first of those equally near.
-/

namespace HomeCatalog.Yaml

namespace Value

/-- The entries with a value for a text: one that is a key already keeps its place. -/
def putText (s : Letters) (value : Value) : List (Value × Value) → List (Value × Value)
  | [] => [(.text s, value)]
  | (k, v) :: rest =>
    if k.isText s then (k, value) :: rest else (k, v) :: putText s value rest

/-- The entries with one more. -/
def putEntry (entries : List (Value × Value)) (key value : Value) : List (Value × Value) :=
  match key with
  | text s => putText s value entries
  | _ => entries ++ [(key, value)]

end Value

/-! ## Results with ranks -/

/-- A value, or a fault and how far from the top it lies. -/
abbrev Ranked (α : Type) := Except (Nat × Fault) α

/-- The outcome of two parts: the fault nearer to the top, or the first of two equally near. -/
def Ranked.both {α β : Type} (x : Ranked α) (y : Ranked β) : Ranked (α × β) :=
  match x, y with
  | .ok a, .ok b => .ok (a, b)
  | .error e, .ok _ => .error e
  | .ok _, .error f => .error f
  | .error e, .error f => .error (if f.1 < e.1 then f else e)

/-- The outcome of all parts. -/
def Ranked.all {α : Type} : List (Ranked α) → Ranked (List α)
  | [] => .ok []
  | x :: rest => (x.both (all rest)).map fun (a, as) => a :: as

/-- A result with its faults at a rank. -/
def Ranked.atRank {α : Type} (rank : Nat) (x : Except Fault α) : Ranked α :=
  x.mapError fun e => (rank, e)

/-! ## Scalars -/

/-- Whether letters of the base-sixty-four alphabet make up whole bytes, other characters aside;
what follows a full padding does not count. -/
def isWholeBase64 (filled pads : Nat) : List Char → Bool
  | [] => filled = 0
  | c :: cs =>
    if c = '=' then
      if filled ≥ 2 && filled + pads + 1 ≥ 4 then true else isWholeBase64 filled (pads + 1) cs
    else if c.isAlphanum || c == '+' || c == '/' then isWholeBase64 ((filled + 1) % 4) 0 cs
    else isWholeBase64 filled pads cs

/-- The value of a scalar. -/
def scalarValue (tag : Tag) (text : Letters) : Except Fault Value :=
  let s := text.string
  match tag with
  | .null => .ok .null
  | .truth =>
    match String.ofList (s.toList.map Char.toLower) with
    | "yes" | "true" | "on" => .ok (.truth true)
    | "no" | "false" | "off" => .ok (.truth false)
    | _ => .error .truthWord
  | .int => (checkWhole s).map fun _ => .other "int"
  | .number => (checkFractional s).map fun _ => .other "float"
  | .binary =>
    if s.toList.all (·.toNat < 128) && isWholeBase64 0 0 s.toList then .ok (.other "binary")
    else .error .malformed
  | .timestamp => (checkDate s).map fun timed => .other (if timed then "timestamp" else "date")
  | .text => .ok (.text text)
  | _ => .error .malformed

namespace Node

/-- Whether the node is the key that stands for the scalar of a mapping. -/
def isDefaultKey : Node → Bool
  | .scalar .default _ => true
  | _ => false

/-- Whether the node is the key of mappings to be merged. -/
def isMergeKey : Node → Bool
  | .scalar .merge _ => true
  | _ => false

/-- The key that a mapping has: one that stands for its scalar is text. -/
def asKey : Node → Node
  | .scalar .default s => .scalar .text s
  | n => n

/-- Whether the node cannot be a key, whatever its parts are. -/
def hasParts : Node → Bool
  | .above _ | .sequence _ _ => true
  | .scalar tag _ | .mapping tag _ =>
    [Tag.sequence, .mapping, .set, .orderedMap, .pairs].contains tag

/-- The text of a node where a scalar is wanted. -/
def scalarText (fuel : Nat) : Node → Except Fault Letters
  | .scalar _ s => .ok s
  | .mapping _ entries =>
    match fuel, entries.find? fun e => e.1.isDefaultKey with
    | fuel + 1, some e => scalarText fuel e.2
    | _, _ => .error .malformed
  | _ => .error .malformed

/-- The entries of a mapping after those that it takes over. Of several mappings in a list the first
wins. -/
def mergedEntries (fuel : Nat) (entries : List (Node × Node)) :
    Except Fault (List (Node × Node)) :=
  match fuel with
  | 0 => .ok []
  | fuel + 1 => do
    let taken ← (entries.filter fun e => e.1.isMergeKey).mapM fun e =>
      match e.2 with
      | .mapping _ inner => mergedEntries fuel inner
      | .sequence _ items => do
        let parts ← items.mapM fun
          | .mapping _ inner => mergedEntries fuel inner
          | .above _ => pure []
          | _ => .error .malformed
        return parts.reverse.flatten
      | .above _ => pure []
      | .scalar _ _ => .error .malformed
    let own := entries.filter fun e => !e.1.isMergeKey
    return taken.flatten ++ own.map fun e => (e.1.asKey, e.2)

/-- The single entry of a mapping. -/
def onlyEntry : Node → Except Fault (Node × Node)
  | .mapping _ [e] => .ok e
  | _ => .error .malformed

/-- The values of some nodes, each by `valueOf`. -/
def itemValues (valueOf : Node → Ranked Value) (nodes : List Node) : Ranked (List Value) :=
  Ranked.all (nodes.map valueOf)

/-- The key and the value of an entry. A key that has parts is a fault of the mapping, at `rank`. -/
def entryValue (valueOf : Node → Ranked Value) (rank : Nat) (e : Node × Node) :
    Ranked (Value × Value) :=
  if e.1.hasParts then .error (rank, .malformed) else (valueOf e.1).both (valueOf e.2)

/-- The keys and values of a mapping and of those merged into it. -/
def entryValues (valueOf : Node → Ranked Value) (fuel rank : Nat) (entries : List (Node × Node)) :
    Ranked (List (Value × Value)) :=
  match mergedEntries fuel entries with
  | .error e => .error (rank, e)
  | .ok all => Ranked.all (all.map (entryValue valueOf rank))

/-- Check mappings of one entry each. -/
def checkPairs (valueOf : Node → Ranked Value) (rank : Nat) (nodes : List Node) :
    Ranked (List (Value × Value)) :=
  Ranked.all (nodes.map fun n =>
    match n.onlyEntry with
    | .error e => .error (rank, e)
    | .ok (k, v) => (valueOf k).both (valueOf v))

/-- The mapping of some keys and values. -/
def mappingOf (entries : List (Value × Value)) : Value :=
  .mapping (entries.foldl (fun all e => Value.putEntry all e.1 e.2) [])

/-- The value of a node. `fuel` is more than its depth. `rank` is the rank of the fault of a node
that has no value of its type whatever its parts are; faults of its parts lie one further down. -/
def value (fuel rank : Nat) (n : Node) : Ranked Value :=
  match fuel with
  | 0 => .error (rank, .malformed)
  | fuel + 1 =>
    let valueOf := value fuel (rank + 1)
    match n with
    | .above _ => .ok (.mapping [])
    | .scalar tag text =>
      match tag with
      | .sequence | .mapping | .set | .orderedMap | .pairs => .error (rank + 1, .malformed)
      | _ => Ranked.atRank rank (scalarValue tag text)
    | .sequence tag items =>
      match tag with
      | .sequence => (itemValues valueOf items).map fun _ => .other "sequence"
      | .orderedMap | .pairs => (checkPairs valueOf (rank + 1) items).map fun _ => .other "sequence"
      | .mapping | .set => .error (rank + 1, .malformed)
      | _ => .error (rank, .malformed)
    | .mapping tag entries =>
      match tag with
      | .mapping => (entryValues valueOf fuel (rank + 1) entries).map mappingOf
      | .set => (entryValues valueOf fuel (rank + 1) entries).map fun _ => .other "set"
      | .sequence | .orderedMap | .pairs => .error (rank + 1, .malformed)
      | .timestamp => Ranked.atRank rank ((n.scalarText fuel).bind fun _ => .error .dateOfParts)
      | _ => Ranked.atRank rank ((n.scalarText fuel).bind (scalarValue tag))

end Node

/-- The character of a letter that is one. -/
def characterOf? : Letter → Option Char
  | .char c => some c
  | _ => none

/-- The value of the only document of a text; halves of surrogate pairs are in none. -/
def read : Reader := fun text =>
  match text.list.mapM characterOf? with
  | none => .error .malformed
  | some characters =>
    match Node.ofText? characters with
    | .error f => .error f
    | .ok none => .ok .null
    | .ok (some n) =>
      match n.value (n.depth + 1) 0 with
      | .ok v => .ok v
      | .error (_, f) => .error f

end HomeCatalog.Yaml
