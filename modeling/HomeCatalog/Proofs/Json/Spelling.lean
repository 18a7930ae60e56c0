import HomeCatalog.Proofs.Json.Held
import HomeCatalog.Proofs.Json.Number
import Mathlib.Data.Bool.AllAny

/-!
# How documents are spelled

A document is a value with blanks around it, and a value is spelled in more than one way: with
blanks between its parts, with escapes in its texts, with names that are given again. `Json.Spells`
is the grammar. It is about a document before its numbers are read (`Json.Source`), so that what a
number literal comes to can be said of the literal.

Every text of the grammar is read, and its value is that of the document (`Json.Spells.isRead`); a
number that cannot be held is the one thing that may stop it. The induction is on the grammar, with
one statement for a value, one for the items and one for the members that are still to come
(`Json.Part.IsRead`).
-/

namespace HomeCatalog.Json

/-! ## Texts -/

/-- A character that needs no escape. -/
def IsPlain (c : Char) : Prop :=
  c ≠ '"' ∧ c ≠ '\\' ∧ 0x20 ≤ c.toNat

instance (c : Char) : Decidable (IsPlain c) :=
  inferInstanceAs (Decidable (_ ∧ _))

/-- A piece of a text between quotes: a character as it is, or after a backslash the letter of one
or the four hexadecimal digits of a code unit. -/
inductive TextPiece
  | plain (c : Char) (h : IsPlain c)
  | escape (letter c : Char) (h : escaped? letter = some c)
  | unit (a b c d : Char) (n : Nat) (h : hexUnit? a b c d = some n)

namespace TextPiece

def chars : TextPiece → List Char
  | plain c _ => [c]
  | escape letter _ _ => ['\\', letter]
  | unit a b c d _ _ => ['\\', 'u', a, b, c, d]

/-- The letters read after the piece, last first, given those before it. -/
def after : TextPiece → List Letter → List Letter
  | plain c _, read | escape _ c _, read => .char c :: read
  | unit _ _ _ _ n _, read => addUnit read n

theorem readText_append (p : TextPiece) (start : List Char) (read : List Letter)
    {rest : List Char} (hrest : rest ≠ []) :
    readText start read (p.chars ++ rest) = readText start (p.after read) rest := by
  cases p with
  | plain c h =>
    obtain ⟨-, hslash, hcontrol⟩ := h
    have hread : ¬c.toNat < 0x20 := Nat.not_lt.2 hcontrol
    simp [chars, after, readText, hslash, hread]
  | escape letter c h =>
    have hu : letter ≠ 'u' := by
      rintro rfl
      cases h
    simp [chars, after, readText, hu, h]
  | unit a b c d n h =>
    have hne : ¬rest.isEmpty = true := by simpa using hrest
    change readText start read ('\\' :: 'u' :: a :: b :: c :: d :: rest) = _
    rw [readText, if_neg hne, h]
    rfl

end TextPiece

/-- The letters of a text that has been read, last first. -/
def readPieces (pieces : List TextPiece) (read : List Letter) : List Letter :=
  pieces.foldl (fun read p => p.after read) read

/-- The text that the pieces spell. -/
def textOf (pieces : List TextPiece) : Letters :=
  ⟨(readPieces pieces []).reverse⟩

def closedChars (pieces : List TextPiece) : List Char :=
  pieces.flatMap TextPiece.chars ++ ['"']

theorem readText_closedChars (pieces : List TextPiece) (start rest : List Char)
    (read : List Letter) :
    readText start read (closedChars pieces ++ rest) =
      .ok (⟨(readPieces pieces read).reverse⟩, rest) := by
  induction pieces generalizing read with
  | nil => rfl
  | cons p pieces ih =>
    have hsplit : closedChars (p :: pieces) ++ rest =
        p.chars ++ (closedChars pieces ++ rest) := by
      simp [closedChars]
    rw [hsplit, p.readText_append start read (by simp [closedChars]), ih]
    rfl

/-- The characters spell a letter of a text, with escapes or without, where it does not complete the
letter before it. -/
def SpellsLetter (cs : List Char) (l : Letter) : Prop :=
  ∃ pieces : List TextPiece, pieces.flatMap TextPiece.chars = cs ∧
    ∀ read, ApartBackwards (l :: read) → readPieces pieces read = l :: read

theorem spellsLetter_of_isPlain {c : Char} (h : IsPlain c) : SpellsLetter [c] (.char c) :=
  ⟨[.plain c h], rfl, fun _ _ => rfl⟩

section Written

variable {write : Letter → List Char}

theorem exists_pieces {ls : List Letter} (h : ∀ l ∈ ls, SpellsLetter (write l) l)
    (read : List Letter) (hapart : ApartBackwards (ls.reverse ++ read)) :
    ∃ pieces, readPieces pieces read = ls.reverse ++ read ∧
      closedChars pieces = ls.flatMap write ++ ['"'] := by
  induction ls generalizing read with
  | nil => exact ⟨[], rfl, rfl⟩
  | cons l ls ih =>
    obtain ⟨⟨first, hchars, hfirst⟩, hls⟩ := List.forall_mem_cons.1 h
    rw [List.reverse_cons, List.append_assoc, List.singleton_append] at hapart ⊢
    obtain ⟨pieces, hread, hclosed⟩ := ih hls (l :: read) hapart
    refine ⟨first ++ pieces, ?_, ?_⟩
    · rw [readPieces, List.foldl_append]
      exact (congrArg (readPieces pieces) (hfirst read hapart.right_of_append)).trans hread
    · rw [closedChars, List.flatMap_append, hchars, List.flatMap_cons, List.append_assoc,
        List.append_assoc, ← hclosed, closedChars]

/-- A settled text is spelled letter by letter. -/
theorem exists_textOf {s : Letters} (hs : s.Settled)
    (h : ∀ l ∈ s.list, SpellsLetter (write l) l) :
    ∃ pieces, textOf pieces = s ∧ closedChars pieces = s.list.flatMap write ++ ['"'] := by
  obtain ⟨pieces, hread, hclosed⟩ := exists_pieces h []
    (by rw [List.append_nil]; exact List.isChain_reverse.2 hs)
  refine ⟨pieces, ?_, hclosed⟩
  rw [textOf, hread, List.append_nil, List.reverse_reverse]

/-- A text without escapes spells itself. -/
theorem exists_textOf_ofString {s : String} (h : ∀ c ∈ s.toList, IsPlain c) :
    ∃ pieces, textOf pieces = s ∧ closedChars pieces = s.toList ++ ['"'] := by
  have hplain : ∀ l ∈ (Letters.ofString s).list, SpellsLetter [l.toChar] l := by
    intro l hl
    obtain ⟨c, hc, rfl⟩ := List.mem_map.1 hl
    exact spellsLetter_of_isPlain (h c hc)
  obtain ⟨pieces, htext, hclosed⟩ := exists_textOf (Letters.settled_ofString s) hplain
  refine ⟨pieces, htext, hclosed.trans ?_⟩
  rw [Letters.ofString, List.flatMap_map]
  exact congrArg (· ++ ['"']) (List.flatMap_singleton' _)

end Written

/-! ## Documents before their numbers are read -/

/-- A document whose numbers are still as they are spelled. -/
inductive Source
  | null
  | bool (b : Bool)
  | number (l : NumberLiteral)
  | special (n : SpecialNumber)
  | text (s : Letters)
  | list (items : List Source)
  | object (members : List (Letters × Source))

namespace Source

mutual

/-- The value of a document, its numbers read. -/
def value : Source → Json
  | .null => .null
  | .bool b => .bool b
  | .number l => l.value
  | .special n => .special n
  | .text s => .text s
  | .list items => .list (itemValues items)
  | .object members => .object (memberValues members)

def itemValues : List Source → List Json
  | [] => []
  | s :: rest => s.value :: itemValues rest

def memberValues : List (Letters × Source) → List (Letters × Json)
  | [] => []
  | (name, s) :: rest => (name, s.value) :: memberValues rest

end

theorem itemValues_eq (items : List Source) : itemValues items = items.map value := by
  induction items with
  | nil => rfl
  | cons s rest ih => rw [itemValues, ih, List.map_cons]

theorem memberValues_eq (members : List (Letters × Source)) :
    memberValues members = members.map fun m => (m.1, m.2.value) := by
  induction members with
  | nil => rfl
  | cons m rest ih =>
    obtain ⟨name, s⟩ := m
    rw [memberValues, ih, List.map_cons]

theorem memberValues_putMember (members : List (Letters × Source)) (name : Letters) (s : Source) :
    memberValues (putMember members name s) = putMember (memberValues members) name s.value := by
  induction members with
  | nil => rfl
  | cons m rest ih =>
    obtain ⟨n, t⟩ := m
    rw [putMember, memberValues, putMember]
    split
    · rw [memberValues]
    · rw [memberValues, ih]

def word? : Source → Option (List Char)
  | .null => some ['n', 'u', 'l', 'l']
  | .bool true => some ['t', 'r', 'u', 'e']
  | .bool false => some ['f', 'a', 'l', 's', 'e']
  | .special .notANumber => some ['N', 'a', 'N']
  | .special .infinity => some ['I', 'n', 'f', 'i', 'n', 'i', 't', 'y']
  | .special .minusInfinity => some ['-', 'I', 'n', 'f', 'i', 'n', 'i', 't', 'y']
  | .number _ | .text _ | .list _ | .object _ => none

/-- The members of an object as they are kept: a name that is given again keeps its first place and
takes the last value. -/
def kept (members before : List (Letters × Source)) : List (Letters × Source) :=
  members.foldl (fun ms m => putMember ms m.1 m.2) before

end Source

/-! ## The grammar -/

/-- What a piece of a document spells: a value, or the items or members between two brackets. -/
inductive Part
  | value (s : Source)
  | items (items : List Source)
  | members (members : List (Letters × Source))

def IsSpace (ws : List Char) : Prop :=
  ∀ c ∈ ws, isSpace c = true

def nameChars (pieces : List TextPiece) (ws ws' : List Char) : List Char :=
  '"' :: (closedChars pieces ++ (ws ++ ':' :: ws'))

/-- The grammar of documents with number literals from `P`. -/
inductive Spells (P : NumberLiteral → Prop) : Part → List Char → Prop
  | word {s : Source} {cs : List Char} : s.word? = some cs → Spells P (.value s) cs
  | number {l : NumberLiteral} : P l → Spells P (.value (.number l)) l.chars
  | text (pieces : List TextPiece) :
    Spells P (.value (.text (textOf pieces))) ('"' :: closedChars pieces)
  | emptyList {ws : List Char} : IsSpace ws → Spells P (.value (.list [])) ('[' :: (ws ++ [']']))
  | list {items : List Source} {ws cs : List Char} : IsSpace ws → Spells P (.items items) cs →
    Spells P (.value (.list items)) ('[' :: (ws ++ (cs ++ [']'])))
  | emptyObject {ws : List Char} : IsSpace ws →
    Spells P (.value (.object [])) ('{' :: (ws ++ ['}']))
  | object {members : List (Letters × Source)} {ws cs : List Char} : IsSpace ws →
    Spells P (.members members) cs →
    Spells P (.value (.object (Source.kept members []))) ('{' :: (ws ++ (cs ++ ['}'])))
  | lastItem {s : Source} {ws cs : List Char} : Spells P (.value s) cs → IsSpace ws →
    Spells P (.items [s]) (cs ++ ws)
  | nextItem {s : Source} {items : List Source} {ws ws' cs cs' : List Char} :
    Spells P (.value s) cs → IsSpace ws → IsSpace ws' → Spells P (.items items) cs' →
    Spells P (.items (s :: items)) (cs ++ (ws ++ ',' :: (ws' ++ cs')))
  | lastMember {pieces : List TextPiece} {s : Source} {ws₁ ws₂ ws cs : List Char} :
    IsSpace ws₁ → IsSpace ws₂ → Spells P (.value s) cs → IsSpace ws →
    Spells P (.members [(textOf pieces, s)]) (nameChars pieces ws₁ ws₂ ++ (cs ++ ws))
  | nextMember {pieces : List TextPiece} {s : Source} {members : List (Letters × Source)}
    {ws₁ ws₂ ws ws' cs cs' : List Char} :
    IsSpace ws₁ → IsSpace ws₂ → Spells P (.value s) cs → IsSpace ws → IsSpace ws' →
    Spells P (.members members) cs' →
    Spells P (.members ((textOf pieces, s) :: members))
      (nameChars pieces ws₁ ws₂ ++ (cs ++ (ws ++ ',' :: (ws' ++ cs'))))

/-- The text spells the document, with blanks around it. -/
def Source.IsSpelledBy (P : NumberLiteral → Prop) (s : Source) (text : String) : Prop :=
  ∃ ws cs ws', text.toList = ws ++ (cs ++ ws') ∧ IsSpace ws ∧ IsSpace ws' ∧ Spells P (.value s) cs

theorem spells_single {P : NumberLiteral → Prop} {name : String} {s : Source} {cs : List Char}
    (hname : ∀ c ∈ name.toList, IsPlain c) (h : Spells P (.value s) cs) :
    Spells P (.value (.object [(name, s)]))
      ('{' :: '"' :: (name.toList ++ '"' :: ':' :: (cs ++ ['}']))) := by
  obtain ⟨pieces, htext, hclosed⟩ := exists_textOf_ofString hname
  have hspace : IsSpace [] := List.forall_mem_nil _
  have hobject := Spells.object hspace
    (@Spells.lastMember P pieces s [] [] [] cs hspace hspace h hspace)
  simpa [nameChars, htext, hclosed, Source.kept, putMember] using hobject

/-! ## Blanks -/

theorem skipSpace_append {ws : List Char} (hws : IsSpace ws) {c : Char} (hc : isSpace c = false)
    (rest : List Char) : skipSpace (ws ++ c :: rest) = c :: rest := by
  refine dropWhile_append_stop hws fun d hd => ?_
  obtain rfl : c = d := Option.some.inj hd
  exact hc

theorem isSpace_iff {c : Char} : isSpace c = true ↔ c = ' ' ∨ c = '\t' ∨ c = '\n' ∨ c = '\r' := by
  simp [isSpace, or_assoc]

theorem endsNumber_append {ws rest : List Char} (hws : IsSpace ws) (hrest : EndsNumber rest) :
    EndsNumber (ws ++ rest) := by
  cases ws with
  | nil => exact hrest
  | cons c ws =>
    refine endsNumber_cons _ ?_
    obtain rfl | rfl | rfl | rfl := isSpace_iff.1 (hws c List.mem_cons_self) <;> decide

/-- The first character of what is spelled: blanks before it are skipped, and it closes nothing. -/
def Opens (c : Char) : Prop :=
  isSpace c = false ∧ c ≠ ']' ∧ c ≠ '}' ∧ c ≠ '\uFEFF'

instance (c : Char) : Decidable (Opens c) :=
  inferInstanceAs (Decidable (_ ∧ _))

theorem opens_of_mem : ∀ c ∈ ['n', 't', 'f', 'N', 'I', '-', '"', '[', '{'], Opens c :=
  List.all_iff_forall_prop.1 (by decide)

theorem opens_of_isDigit {c : Char} (h : c.isDigit = true) : Opens c := by
  have hne : ∀ d : Char, d.isDigit = false → c ≠ d := by
    rintro d hd rfl
    rw [h] at hd
    cases hd
  refine ⟨?_, hne _ rfl, hne _ rfl, hne _ rfl⟩
  rw [← Bool.not_eq_true, isSpace_iff]
  simp [hne]

section Spelled

variable {P : NumberLiteral → Prop} {part : Part} {cs : List Char}

theorem exists_opens_of_word? {s : Source} (h : s.word? = some cs) :
    ∃ c rest, cs = c :: rest ∧ Opens c := by
  unfold Source.word? at h
  split at h
  all_goals
    cases h
    try exact ⟨_, _, rfl, opens_of_mem _ (by decide)⟩

theorem Spells.exists_opens (h : Spells P part cs) : ∃ c rest, cs = c :: rest ∧ Opens c := by
  induction h with
  | word hword => exact exists_opens_of_word? hword
  | @number l _ =>
    obtain ⟨c, cs, hchars | hchars, hc⟩ := l.exists_chars_cons
    · exact ⟨c, cs, hchars, opens_of_isDigit hc⟩
    · exact ⟨'-', c :: cs, hchars, opens_of_mem _ (by decide)⟩
  | text _ | lastMember _ _ _ _ _ | nextMember _ _ _ _ _ _ _ _ =>
    exact ⟨'"', _, rfl, opens_of_mem _ (by decide)⟩
  | emptyList _ | list _ _ _ => exact ⟨'[', _, rfl, opens_of_mem _ (by decide)⟩
  | emptyObject _ | object _ _ _ => exact ⟨'{', _, rfl, opens_of_mem _ (by decide)⟩
  | lastItem _ _ ih | nextItem _ _ _ _ ih _ =>
    obtain ⟨c, rest, rfl, hc⟩ := ih
    exact ⟨c, _, rfl, hc⟩

theorem Spells.skipSpace_append (h : Spells P part cs) {ws : List Char} (hws : IsSpace ws)
    (rest : List Char) : skipSpace (ws ++ (cs ++ rest)) = cs ++ rest := by
  obtain ⟨c, cs, rfl, hc⟩ := h.exists_opens
  exact Json.skipSpace_append hws hc.1 _

end Spelled

/-! ## One step of the reader -/

theorem readValue_word {s : Source} {cs : List Char} (h : s.word? = some cs) (fuel : Nat)
    (rest : List Char) : readValue (fuel + 1) (cs ++ rest) = .ok (s.value, rest) := by
  unfold Source.word? at h
  split at h
  all_goals
    cases h
    try rfl

theorem readValue_of_isDigit {c : Char} (hc : c.isDigit = true) (fuel : Nat) (cs : List Char) :
    readValue (fuel + 1) (c :: cs) = readNumber (c :: cs) ∧
      readValue (fuel + 1) ('-' :: c :: cs) = readNumber ('-' :: c :: cs) := by
  constructor
  · unfold readValue
    split
    any_goals rfl
    all_goals
      next heq =>
      cases heq
      cases hc
  · unfold readValue
    split
    any_goals rfl
    -- The one word with this sign goes on with a letter.
    all_goals
      next heq =>
      cases heq
      try cases hc

theorem readValue_number (l : NumberLiteral) (fuel : Nat) (rest : List Char) :
    readValue (fuel + 1) (l.chars ++ rest) = readNumber (l.chars ++ rest) := by
  obtain ⟨c, cs, hchars | hchars, hc⟩ := l.exists_chars_cons
  · rw [hchars]
    exact (readValue_of_isDigit hc fuel _).1
  · rw [hchars]
    exact (readValue_of_isDigit hc fuel _).2

theorem readValue_text (pieces : List TextPiece) (fuel : Nat) (rest : List Char) :
    readValue (fuel + 1) ('"' :: closedChars pieces ++ rest) =
      .ok (.text (textOf pieces), rest) := by
  rw [List.cons_append, readValue, readText_closedChars]
  rfl

section Opened

variable {c : Char} (hc : Opens c) {ws : List Char} (hws : IsSpace ws) (fuel : Nat)
  (rest : List Char)

include hws

theorem readValue_emptyList :
    readValue (fuel + 1) ('[' :: (ws ++ ']' :: rest)) = .ok (.list [], rest) := by
  rw [readValue, skipSpace_append hws rfl]
  rfl

theorem readValue_emptyObject :
    readValue (fuel + 1) ('{' :: (ws ++ '}' :: rest)) = .ok (.object [], rest) := by
  rw [readValue, skipSpace_append hws rfl]
  rfl

include hc

theorem readValue_list :
    readValue (fuel + 1) ('[' :: (ws ++ c :: rest)) = readItems fuel [] (c :: rest) := by
  rw [readValue, skipSpace_append hws hc.1]
  split
  · next heq =>
    cases heq
    exact absurd rfl hc.2.1
  · rfl

theorem readValue_object :
    readValue (fuel + 1) ('{' :: (ws ++ c :: rest)) = readMembers fuel [] (c :: rest) := by
  rw [readValue, skipSpace_append hws hc.1]
  split
  · next heq =>
    cases heq
    exact absurd rfl hc.2.2.1
  · rfl

end Opened

/-! ## What is read -/

/-- The value is read and what follows it is left, unless a number cannot be held. -/
def Reads (held : Prop) (r : Read Json) (j : Json) (rest : List Char) : Prop :=
  r = .ok (j, rest) ∨ ¬held ∧ ∃ f, r = .error (.number f)

/-- What is spelled is read wherever it stands, given enough fuel for it and after the items or
members before. -/
def Part.IsRead (held : Prop) : Part → List Char → Prop
  | .value s, cs => ∀ fuel rest, 2 * cs.length ≤ fuel → EndsNumber rest →
    Reads held (readValue fuel (cs ++ rest)) s.value rest
  | .items ss, cs => ∀ fuel before rest, 2 * cs.length + 1 ≤ fuel →
    Reads held (readItems fuel before (cs ++ ']' :: rest))
      (.list (before.reverse ++ Source.itemValues ss)) rest
  | .members ms, cs => ∀ fuel before rest, 2 * cs.length + 1 ≤ fuel →
    Reads held (readMembers fuel (Source.memberValues before) (cs ++ '}' :: rest))
      (.object (Source.memberValues (Source.kept ms before))) rest

section Step

variable {held : Prop} {s : Source} {ws cs : List Char}
  (hvalue : Part.IsRead held (.value s) cs) (hws : IsSpace ws) {fuel : Nat}

include hvalue hws

/-- The value before a closing bracket or a comma. -/
theorem reads_before (hfuel : 2 * cs.length ≤ fuel) {c : Char}
    (hc : c ∈ [']', '}', ',']) (rest : List Char) :
    Reads held (readValue fuel (cs ++ (ws ++ c :: rest))) s.value (ws ++ c :: rest) ∧
      skipSpace (ws ++ c :: rest) = c :: rest := by
  have hends : ∀ c ∈ [']', '}', ','], isSpace c = false ∧
      c.isDigit = false ∧ c ≠ '.' ∧ c ≠ 'e' ∧ c ≠ 'E' :=
    List.all_iff_forall_prop.1 (by decide)
  obtain ⟨hspace, hend⟩ := hends c hc
  exact ⟨hvalue fuel _ hfuel (endsNumber_append hws (endsNumber_cons rest hend)),
    skipSpace_append hws hspace rest⟩

theorem readItems_last (hfuel : 2 * cs.length ≤ fuel) (before : List Json) (rest : List Char) :
    Reads held (readItems (fuel + 1) before (cs ++ (ws ++ ']' :: rest)))
      (.list (before.reverse ++ Source.itemValues [s])) rest := by
  obtain ⟨hread | ⟨hheld, f, hread⟩, hskip⟩ :=
    reads_before hvalue hws hfuel (by decide : ']' ∈ _) rest
  · left
    rw [readItems, hread]
    dsimp only
    rw [hskip]
    simp [Source.itemValues]
  · refine .inr ⟨hheld, f, ?_⟩
    rw [readItems, hread]

theorem readItems_next (hfuel : 2 * cs.length ≤ fuel) (before : List Json) {items : List Source}
    {ws' cs' : List Char} (hskip' : ∀ rest, skipSpace (ws' ++ (cs' ++ rest)) = cs' ++ rest)
    (rest : List Char)
    (hitems : Reads held (readItems fuel (s.value :: before) (cs' ++ ']' :: rest))
      (.list ((s.value :: before).reverse ++ Source.itemValues items)) rest) :
    Reads held (readItems (fuel + 1) before (cs ++ (ws ++ ',' :: (ws' ++ (cs' ++ ']' :: rest)))))
      (.list (before.reverse ++ Source.itemValues (s :: items))) rest := by
  obtain ⟨hread | ⟨hheld, f, hread⟩, hskip⟩ :=
    reads_before hvalue hws hfuel (by decide : ',' ∈ _) (ws' ++ (cs' ++ ']' :: rest))
  · rw [readItems, hread]
    dsimp only
    rw [hskip]
    simp only [hskip']
    simpa [Source.itemValues] using hitems
  · refine .inr ⟨hheld, f, ?_⟩
    rw [readItems, hread]

omit hvalue hws in
/-- A member up to its value. -/
theorem readMembers_name (pieces : List TextPiece) {ws₁ ws₂ : List Char} (hws₁ : IsSpace ws₁)
    (hskip : ∀ rest, skipSpace (ws₂ ++ (cs ++ rest)) = cs ++ rest)
    (before : List (Letters × Json)) (rest : List Char) :
    readMembers (fuel + 1) before (nameChars pieces ws₁ ws₂ ++ (cs ++ rest)) =
      match readValue fuel (cs ++ rest) with
      | .error e => .error e
      | .ok (value, rest) =>
        let members := putMember before (textOf pieces) value
        match skipSpace rest with
        | '}' :: rest => .ok (.object members, rest)
        | ',' :: rest => readMembers fuel members (skipSpace rest)
        | rest => stopAt .comma rest := by
  have hsplit : nameChars pieces ws₁ ws₂ ++ (cs ++ rest) =
      '"' :: (closedChars pieces ++ (ws₁ ++ ':' :: (ws₂ ++ (cs ++ rest)))) := by
    simp [nameChars]
  rw [hsplit, readMembers, readText_closedChars]
  dsimp only
  rw [skipSpace_append hws₁ rfl]
  simp only [hskip]
  rfl

theorem readMembers_last (hfuel : 2 * cs.length ≤ fuel) (pieces : List TextPiece)
    {ws₁ ws₂ : List Char} (hws₁ : IsSpace ws₁)
    (hskip₂ : ∀ rest, skipSpace (ws₂ ++ (cs ++ rest)) = cs ++ rest)
    (before : List (Letters × Source)) (rest : List Char) :
    Reads held (readMembers (fuel + 1) (Source.memberValues before)
        (nameChars pieces ws₁ ws₂ ++ (cs ++ (ws ++ '}' :: rest))))
      (.object (Source.memberValues (Source.kept [(textOf pieces, s)] before))) rest := by
  rw [readMembers_name pieces hws₁ hskip₂]
  obtain ⟨hread | ⟨hheld, f, hread⟩, hskip⟩ :=
    reads_before hvalue hws hfuel (by decide : '}' ∈ _) rest
  · left
    rw [hread]
    dsimp only
    rw [hskip, ← Source.memberValues_putMember]
    rfl
  · refine .inr ⟨hheld, f, ?_⟩
    rw [hread]

theorem readMembers_next (hfuel : 2 * cs.length ≤ fuel) (pieces : List TextPiece)
    {ws₁ ws₂ : List Char} (hws₁ : IsSpace ws₁)
    (hskip₂ : ∀ rest, skipSpace (ws₂ ++ (cs ++ rest)) = cs ++ rest)
    (before : List (Letters × Source)) {members : List (Letters × Source)} {ws' cs' : List Char}
    (hskip' : ∀ rest, skipSpace (ws' ++ (cs' ++ rest)) = cs' ++ rest) (rest : List Char)
    (hmembers : ∀ before, Reads held
      (readMembers fuel (Source.memberValues before) (cs' ++ '}' :: rest))
      (.object (Source.memberValues (Source.kept members before))) rest) :
    Reads held (readMembers (fuel + 1) (Source.memberValues before)
        (nameChars pieces ws₁ ws₂ ++ (cs ++ (ws ++ ',' :: (ws' ++ (cs' ++ '}' :: rest))))))
      (.object (Source.memberValues (Source.kept ((textOf pieces, s) :: members) before)))
      rest := by
  rw [readMembers_name pieces hws₁ hskip₂]
  obtain ⟨hread | ⟨hheld, f, hread⟩, hskip⟩ :=
    reads_before hvalue hws hfuel (by decide : ',' ∈ _) (ws' ++ (cs' ++ '}' :: rest))
  · rw [hread]
    dsimp only
    rw [hskip]
    simp only [hskip', ← Source.memberValues_putMember]
    exact hmembers _
  · refine .inr ⟨hheld, f, ?_⟩
    rw [hread]

end Step

theorem exists_fuel {cs : List Char} {fuel : Nat} (h : 2 * cs.length ≤ fuel) (hne : cs ≠ []) :
    ∃ k, fuel = k + 1 := by
  have := List.length_pos_iff.2 hne
  exact ⟨fuel - 1, by omega⟩

/-- Every text of the grammar is read; numbers that cannot be held are the only obstacle. -/
theorem Spells.isRead {P : NumberLiteral → Prop} {part : Part} {cs : List Char}
    (h : Spells P part cs) : part.IsRead (∀ l, P l → l.CanBeHeld) cs := by
  -- An item costs a step for itself and one for its value, and has a character at least. So two
  -- steps for each character suffice, and one more for the end of a list or an object.
  induction h with
  | word hword =>
    intro fuel rest hfuel _
    obtain ⟨c, cs, rfl, -⟩ := exists_opens_of_word? hword
    obtain ⟨fuel, rfl⟩ := exists_fuel hfuel (List.cons_ne_nil _ _)
    exact .inl (readValue_word hword fuel rest)
  | @number l hl =>
    intro fuel rest hfuel hrest
    obtain ⟨c, cs, hchars, -⟩ := (Spells.number hl).exists_opens
    obtain ⟨fuel, rfl⟩ := exists_fuel hfuel (hchars ▸ List.cons_ne_nil _ _)
    rw [readValue_number]
    refine (NumberLiteral.readNumber_chars hrest).imp_right ?_
    rintro ⟨hheld, hread⟩
    exact ⟨fun hall => hheld (hall l hl), hread⟩
  | text pieces =>
    intro fuel rest hfuel _
    obtain ⟨fuel, rfl⟩ := exists_fuel hfuel (List.cons_ne_nil _ _)
    exact .inl (readValue_text pieces fuel rest)
  | emptyList hws =>
    intro fuel rest hfuel _
    obtain ⟨fuel, rfl⟩ := exists_fuel hfuel (List.cons_ne_nil _ _)
    rw [List.cons_append, List.append_assoc]
    exact .inl (readValue_emptyList hws fuel rest)
  | @list _ ws cs hws hitems ih =>
    intro fuel rest hfuel _
    obtain ⟨fuel, rfl⟩ := exists_fuel hfuel (List.cons_ne_nil _ _)
    have hread := ih fuel [] rest (by simp at hfuel; omega)
    obtain ⟨c, cs, rfl, hc⟩ := hitems.exists_opens
    simp only [List.cons_append, List.append_assoc, List.nil_append, List.reverse_nil] at hread ⊢
    rw [readValue_list hc hws]
    exact hread
  | emptyObject hws =>
    intro fuel rest hfuel _
    obtain ⟨fuel, rfl⟩ := exists_fuel hfuel (List.cons_ne_nil _ _)
    rw [List.cons_append, List.append_assoc]
    exact .inl (readValue_emptyObject hws fuel rest)
  | @object _ ws cs hws hmembers ih =>
    intro fuel rest hfuel _
    obtain ⟨fuel, rfl⟩ := exists_fuel hfuel (List.cons_ne_nil _ _)
    have hread := ih fuel [] rest (by simp at hfuel; omega)
    obtain ⟨c, cs, rfl, hc⟩ := hmembers.exists_opens
    simp only [List.cons_append, List.append_assoc, List.nil_append] at hread ⊢
    rw [readValue_object hc hws]
    exact hread
  | lastItem hvalue hws ih =>
    intro fuel before rest hfuel
    cases fuel with
    | zero => omega
    | succ fuel =>
      rw [List.append_assoc]
      rw [List.length_append] at hfuel
      exact readItems_last ih hws (by omega) before rest
  | nextItem hvalue hws hws' hitems ih ihitems =>
    intro fuel before rest hfuel
    cases fuel with
    | zero => omega
    | succ fuel =>
      simp only [List.append_assoc, List.cons_append, List.length_append,
        List.length_cons] at hfuel ⊢
      exact readItems_next ih hws (by omega) before (hitems.skipSpace_append hws') rest
        (ihitems fuel _ rest (by omega))
  | lastMember hws₁ hws₂ hvalue hws ih =>
    intro fuel before rest hfuel
    cases fuel with
    | zero => omega
    | succ fuel =>
      simp only [List.append_assoc, List.length_append] at hfuel ⊢
      exact readMembers_last ih hws (by omega) _ hws₁ (hvalue.skipSpace_append hws₂) before rest
  | nextMember hws₁ hws₂ hvalue hws hws' hmembers ih ihmembers =>
    intro fuel before rest hfuel
    cases fuel with
    | zero => omega
    | succ fuel =>
      simp only [List.append_assoc, List.cons_append, List.length_append,
        List.length_cons] at hfuel ⊢
      exact readMembers_next ih hws (by omega) _ hws₁ (hvalue.skipSpace_append hws₂) before
        (hmembers.skipSpace_append hws') rest fun before => ihmembers fuel before rest (by omega)

/-! ## Whole documents -/

/-- Neither a blank nor the first character of a value is a byte order mark. -/
theorem Spells.head?_ne_mark {P : NumberLiteral → Prop} {part : Part} {ws cs : List Char}
    (h : Spells P part cs) (hws : IsSpace ws) (rest : List Char) :
    (ws ++ (cs ++ rest)).head? ≠ some '\uFEFF' := by
  cases ws with
  | nil =>
    obtain ⟨c, cs, rfl, hc⟩ := h.exists_opens
    rintro hmark
    exact hc.2.2.2 (Option.some.inj hmark)
  | cons c ws =>
    rintro hmark
    obtain rfl : c = '\uFEFF' := Option.some.inj hmark
    have hspace := hws _ List.mem_cons_self
    revert hspace
    decide

theorem readDocument_eq {cs : List Char} (h : cs.head? ≠ some '\uFEFF') :
    readDocument cs =
      match readValue (2 * cs.length + 2) (skipSpace cs) with
      | .error e => .error e
      | .ok (j, rest) =>
        match skipSpace rest with
        | [] => .ok j
        | rest => stopAt .extraData rest := by
  unfold readDocument
  split
  · exact absurd rfl h
  · rfl

/-- A text that spells a document is read as that document. -/
theorem parse_of_isSpelledBy {P : NumberLiteral → Prop} {s : Source} {text : String}
    (h : s.IsSpelledBy P text) :
    parse text = .ok s.value ∨
      (¬∀ l, P l → l.CanBeHeld) ∧ ∃ f, parse text = .error (.number f) := by
  obtain ⟨ws, cs, ws', htext, hws, hws', hspells⟩ := h
  have hends : EndsNumber (ws' ++ []) := endsNumber_append hws' fun _ hc => by cases hc
  rw [List.append_nil] at hends
  have hread := hspells.isRead (2 * text.toList.length + 2) ws'
    (by rw [htext]; simp only [List.length_append]; omega) hends
  have hrest : skipSpace ws' = [] := List.dropWhile_eq_nil_iff.2 hws'
  have hdocument := readDocument_eq (htext ▸ hspells.head?_ne_mark hws ws')
  rw [parse, hdocument]
  have hskip : skipSpace text.toList = cs ++ ws' := htext ▸ hspells.skipSpace_append hws ws'
  rw [hskip]
  obtain hread | ⟨hheld, f, hread⟩ := hread
  · left
    rw [hread]
    dsimp only
    rw [hrest]
  · refine .inr ⟨hheld, f, ?_⟩
    rw [hread]
    rfl

theorem parse_of_canBeHeld {s : Source} {text : String}
    (h : s.IsSpelledBy NumberLiteral.CanBeHeld text) : parse text = .ok s.value := by
  obtain hparse | ⟨hheld, -⟩ := parse_of_isSpelledBy h
  · exact hparse
  · exact absurd (fun _ hl => hl) hheld

end HomeCatalog.Json
