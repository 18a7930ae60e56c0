import HomeCatalog.Pattern.Basic

/-!
# Searching

`Pattern.Node.foundIn` says whether a text holds something that a pattern describes. Possibilities
are tried in order and one after the other; what a possibility remembers is forgotten when it fails.
A repetition stops at a round that takes no characters, which bounds its rounds by the length of the
text.
-/

namespace HomeCatalog.Pattern

/-- A place in a text, and what has been remembered on the way there. -/
structure Place where
  /-- The characters before the place, last first. -/
  before : List Char
  /-- The characters after the place. -/
  after : List Char
  /-- What is remembered, the latest first. -/
  memory : List (Nat × List Char) := []

namespace Place

/-- The place one character on. -/
def next? (p : Place) : Option (Char × Place) :=
  match p.after with
  | [] => none
  | c :: cs => some (c, { p with before := c :: p.before, after := cs })

/-- The place some characters back. -/
def back? (p : Place) (width : Nat) : Option Place :=
  if p.before.length < width then none
  else some { p with before := p.before.drop width,
                     after := (p.before.take width).reverse ++ p.after }

/-- The place with what stands between it and a later one remembered there. -/
def remember (number : Nat) (start stop : Place) : Place :=
  let found := start.after.take (start.after.length - stop.after.length)
  { stop with memory := (number, found) :: stop.memory }

/-- Whether the place is at the edge of a word. -/
def atWordEdge (ascii : Bool) (p : Place) : Bool :=
  let isWord := fun c => Category.has ascii c .word
  p.before.head?.any isWord != p.after.head?.any isWord

/-- The place after some characters, if these stand here. -/
def pass? (rule : CaseRule) (p : Place) : List Char → Option Place
  | [] => some p
  | c :: cs =>
    match p.after with
    | [] => none
    | d :: ds =>
      if rule.same c d then pass? rule { p with before := d :: p.before, after := ds } cs else none

end Place

/-- What remains to be found, from a place on. -/
abbrev Rest := Place → Option Place

/-- The rounds of a repetition after `count` of them, the last of which began with `last` characters
left. Rounds beyond the least number are tried only if the one before took characters. -/
def rounds (round : Place → Rest → Option Place) (least : Nat) (most : Option Nat)
    (fewestFirst : Bool) (fuel count : Nat) (last : Option Nat) (p : Place) (rest : Rest) :
    Option Place :=
  match fuel with
  | 0 => none
  | fuel + 1 =>
    if count < least then
      round p fun q => rounds round least most fewestFirst fuel (count + 1) none q rest
    else
      let mayGoOn := most.all (count < ·) && last != some p.after.length
      if !mayGoOn then rest p
      else if fewestFirst then
        match rest p with
        | some q => some q
        | none => round p fun q =>
          rounds round least most fewestFirst fuel (count + 1) (some p.after.length) q rest
      else
        match round p fun q =>
          rounds round least most fewestFirst fuel (count + 1) (some p.after.length) q rest with
        | some q => some q
        | none => rest p

/-- Find a pattern at a place and what remains after it: the place where all of it ends. -/
def Node.run : Node → Place → Rest → Option Place
  | .empty, p, rest => rest p
  | .never, _, _ => none
  | .set negated items rule ascii, p, rest =>
    match p.next? with
    | none => none
    | some (c, q) => if items.any (SetItem.has rule ascii c) != negated then rest q else none
  | .any lineEnds, p, rest =>
    match p.next? with
    | none => none
    | some (c, q) => if lineEnds || c != '\n' then rest q else none
  | .lineStart everyLine, p, rest =>
    if p.before.isEmpty || (everyLine && p.before.head? == some '\n') then rest p else none
  | .lineEnd everyLine, p, rest =>
    if p.after.isEmpty || p.after == ['\n'] || (everyLine && p.after.head? == some '\n') then rest p
    else none
  | .textEnd, p, rest => if p.after.isEmpty then rest p else none
  | .wordEdge negated ascii, p, rest =>
    if p.before.isEmpty && p.after.isEmpty then none
    else if p.atWordEdge ascii != negated then rest p else none
  | .seq a b, p, rest => a.run p fun q => b.run q rest
  | .alt a b, p, rest =>
    match a.run p rest with
    | some q => some q
    | none => b.run p rest
  | .group number a, p, rest => a.run p fun q => rest (p.remember number q)
  | .atomic a, p, rest =>
    match a.run p some with
    | some q => rest q
    | none => none
  | .repetition least most eagerness a, p, rest =>
    let fuel := least + p.after.length + 2
    match eagerness with
    | .greedy => rounds (fun q k => a.run q k) least most false fuel 0 none p rest
    | .lazy => rounds (fun q k => a.run q k) least most true fuel 0 none p rest
    | .possessive =>
      match rounds (fun q k => a.run q k) least most false fuel 0 none p some with
      | some q => rest q
      | none => none
  | .recall number rule, p, rest =>
    match p.memory.lookup number with
    | none => none
    | some found =>
      match p.pass? rule found with
      | some q => rest q
      | none => none
  | .ahead negated a, p, rest =>
    match a.run p some with
    | some q => if negated then none else rest { p with memory := q.memory }
    | none => if negated then rest p else none
  | .behind negated width a, p, rest =>
    match (p.back? width).bind fun start => a.run start some with
    | some q => if negated then none else rest { p with memory := q.memory }
    | none => if negated then rest p else none
  | .provided number a b, p, rest =>
    if (p.memory.lookup number).isSome then a.run p rest else b.run p rest

/-- Whether a pattern is found at some place from here on. -/
def Node.foundFrom (n : Node) (before : List Char) : List Char → Bool
  | [] => (n.run ⟨before, [], []⟩ some).isSome
  | c :: cs => (n.run ⟨before, c :: cs, []⟩ some).isSome || n.foundFrom (c :: before) cs

/-- Whether a text holds something that a pattern describes. -/
def Node.foundIn (n : Node) (text : String) : Bool :=
  n.foundFrom [] text.toList

/-- What a pattern remembers when it describes the beginning of a text. -/
def Node.captures? (n : Node) (text : String) : Option (List (Nat × List Char)) :=
  (n.run ⟨[], text.toList, []⟩ some).map (·.memory)

end HomeCatalog.Pattern
