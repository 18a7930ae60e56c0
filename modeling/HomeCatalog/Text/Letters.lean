/-!
# Texts with halves of surrogate pairs

A document may escape half a surrogate pair, and a text that is read from it holds that half.
`Letters` is a text of characters and of such halves. Every `String` is one, and `Letters.string`
goes the other way: a half has no character, so the replacement character stands in its place.
-/

namespace HomeCatalog

/-- What a text is made of: a character, or the first or second half of a surrogate pair. -/
inductive Letter
  | char (c : Char)
  | high (n : Fin 0x400)
  | low (n : Fin 0x400)
deriving DecidableEq, Repr

namespace Letter

/-- The code point of a letter. -/
def code : Letter → Nat
  | char c => c.toNat
  | high n => 0xD800 + n
  | low n => 0xDC00 + n

/-- The letter of a code point. -/
def ofCode (n : Nat) : Letter :=
  if h : 0xD800 ≤ n ∧ n < 0xDC00 then high ⟨n - 0xD800, by omega⟩
  else if h : 0xDC00 ≤ n ∧ n < 0xE000 then low ⟨n - 0xDC00, by omega⟩
  else char (Char.ofNat n)

/-- The character of a letter, the replacement character for a half. -/
def toChar : Letter → Char
  | char c => c
  | high _ | low _ => '\uFFFD'

/-- The character of two halves. -/
def pair (first second : Fin 0x400) : Char :=
  Char.ofNat (0x10000 + first * 0x400 + second)

end Letter

/-- A text of characters and of halves of surrogate pairs. -/
structure Letters where
  list : List Letter
deriving DecidableEq, Repr, Inhabited

namespace Letters

/-- A text without halves. -/
def ofString (s : String) : Letters :=
  ⟨s.toList.map .char⟩

instance : Coe String Letters :=
  ⟨ofString⟩

/-- The text with the replacement character in place of each half. -/
def string (s : Letters) : String :=
  String.ofList (s.list.map Letter.toChar)

/-- Whether the text has no letters. -/
def isEmpty (s : Letters) : Bool :=
  s.list.isEmpty

/-- Whether a text may stand before another: by its code points. -/
def le (s t : Letters) : Bool :=
  !(t.list.map Letter.code).lex (s.list.map Letter.code) Nat.blt

@[simp] theorem string_ofString (s : String) : (ofString s).string = s := by
  simp [ofString, string, Function.comp_def, Letter.toChar]

@[simp] theorem ofString_inj {s t : String} : ofString s = ofString t ↔ s = t :=
  ⟨fun h => by rw [← string_ofString s, h, string_ofString], congrArg _⟩

@[simp] theorem isEmpty_iff {s : Letters} : s.isEmpty = true ↔ s = "" := by
  obtain ⟨list⟩ := s
  simp [isEmpty, ofString]

@[simp] theorem ofString_beq (s t : String) : (ofString s == ofString t) = (s == t) := by
  rw [Bool.eq_iff_iff, beq_iff_eq, beq_iff_eq, ofString_inj]

end Letters

end HomeCatalog
