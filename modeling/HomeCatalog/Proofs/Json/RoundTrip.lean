import HomeCatalog.Json.Writer
import HomeCatalog.Proofs.Json.Held
import HomeCatalog.Proofs.Json.Spelling

/-!
# What is written is read back

A value that was read, written again and read again is the value it was, but for its decimals: they
have no form of their own in what is written, so they come back as texts
(`Json.WellFormed.parse_write`). What the writer makes is spelled as the grammar has it, so the
reader is met through `Json.parse_of_canBeHeld` only.
-/

namespace HomeCatalog

/-! ## Hexadecimal digits -/

namespace Text

theorem hexDigits_one {n : Nat} (h : n < 16) : hexDigits 1 n = [Nat.digitChar n] := by
  rw [hexDigits, Nat.toDigits_of_lt_base h]
  rfl

/-- One more place is one more digit at the end, though the number may have fewer than places. -/
theorem hexDigits_succ (width n : Nat) :
    hexDigits (width + 2) n = hexDigits (width + 1) (n / 16) ++ [Nat.digitChar (n % 16)] := by
  unfold hexDigits
  by_cases hn : n < 16
  · have hdiv : n / 16 = 0 := Nat.div_eq_of_lt hn
    rw [hdiv, Nat.mod_eq_of_lt hn, Nat.toDigits_of_lt_base hn, Nat.toDigits_zero]
    change List.replicate (width + 1) '0' ++ _ = (List.replicate width '0' ++ ['0']) ++ _
    rw [List.replicate_succ']
  · rw [Nat.toDigits_of_base_le (by decide) (Nat.not_lt.1 hn)]
    dsimp only
    rw [List.length_append, List.length_singleton, Nat.add_sub_add_right (width + 1) 1,
      List.append_assoc]

end Text

namespace Json

theorem hexValue?_digitChar : ∀ d < 16, hexValue? (Nat.digitChar d) = some d := by
  decide

theorem exists_hexUnit {n : Nat} (h : n < 0x10000) :
    ∃ a b c d, Text.hexDigits 4 n = [a, b, c, d] ∧ hexUnit? a b c d = some n := by
  have hdigits : Text.hexDigits 4 n = [Nat.digitChar (n / 16 / 16 / 16),
      Nat.digitChar (n / 16 / 16 % 16), Nat.digitChar (n / 16 % 16), Nat.digitChar (n % 16)] := by
    rw [Text.hexDigits_succ, Text.hexDigits_succ, Text.hexDigits_succ,
      Text.hexDigits_one (by omega)]
    rfl
  refine ⟨_, _, _, _, hdigits, ?_⟩
  have hlt : ∀ k, k % 16 < 16 := fun k => Nat.mod_lt k (by decide)
  rw [hexUnit?, hexValue?_digitChar _ (by omega), hexValue?_digitChar _ (hlt _),
    hexValue?_digitChar _ (hlt _), hexValue?_digitChar _ (hlt _)]
  exact congrArg some (by omega)

/-! ## Texts -/

theorem toNat_bounds (c : Char) : c.toNat < 0xD800 ∨ 0xDFFF < c.toNat ∧ c.toNat < 0x110000 :=
  c.valid

/-- A letter is that of its code point. -/
theorem ofCode_code (l : Letter) : Letter.ofCode l.code = l := by
  cases l with
  | char c =>
    have hbounds := toNat_bounds c
    rw [Letter.ofCode, dif_neg (by simp only [Letter.code]; omega),
      dif_neg (by simp only [Letter.code]; omega), Letter.code, Char.ofNat_toNat]
  | high n =>
    have hlt := n.isLt
    rw [Letter.ofCode, dif_pos (by simp only [Letter.code]; omega)]
    exact congrArg Letter.high (Fin.ext (Nat.add_sub_cancel_left _ _))
  | low n =>
    have hlt := n.isLt
    rw [Letter.ofCode, dif_neg (by simp only [Letter.code]; omega),
      dif_pos (by simp only [Letter.code]; omega)]
    exact congrArg Letter.low (Fin.ext (Nat.add_sub_cancel_left _ _))

/-- A code unit that completes nothing is a letter of its own. -/
theorem addUnit_code {l : Letter} {read : List Letter} (h : ApartBackwards (l :: read)) :
    addUnit read l.code = l :: read := by
  unfold addUnit
  split
  · next second first before hlow =>
    rw [ofCode_code] at hlow
    subst hlow
    exact absurd (List.isChain_cons_cons.1 h).1 id
  · rw [ofCode_code]

theorem addUnit_low (first second : Fin 0x400) (read : List Letter) :
    addUnit (.high first :: read) (Letter.low second).code =
      .char (Letter.pair first second) :: read := by
  simp only [addUnit, ofCode_code]

theorem spellsLetter_escape {letter c : Char} (h : escaped? letter = some c) :
    SpellsLetter ['\\', letter] (.char c) :=
  ⟨[.escape letter c h], rfl, fun _ _ => rfl⟩

theorem spellsLetter_unit {l : Letter} (h : l.code < 0x10000) :
    SpellsLetter (unitEscape l.code) l := by
  obtain ⟨x₁, x₂, x₃, x₄, hdigits, hunit⟩ := exists_hexUnit h
  refine ⟨[.unit x₁ x₂ x₃ x₄ l.code hunit], ?_, fun read hread => addUnit_code hread⟩
  rw [unitEscape, hdigits]
  rfl

/-- A character beyond the four digits is written as a surrogate pair. -/
theorem spellsLetter_pair {c : Char} (h : 0x10000 ≤ c.toNat) :
    SpellsLetter (unitEscape (0xD800 + (c.toNat - 0x10000) / 1024) ++
      unitEscape (0xDC00 + (c.toNat - 0x10000) % 1024)) (.char c) := by
  have hbounds := toNat_bounds c
  let first : Fin 0x400 := ⟨(c.toNat - 0x10000) / 1024, by omega⟩
  let second : Fin 0x400 := ⟨(c.toNat - 0x10000) % 1024, Nat.mod_lt _ (by decide)⟩
  have hpair : Letter.pair first second = c := by
    have hsum : 0x10000 + (c.toNat - 0x10000) / 1024 * 1024 + (c.toNat - 0x10000) % 1024 =
        c.toNat := by omega
    exact (congrArg Char.ofNat hsum).trans (Char.ofNat_toNat c)
  have hhigh : 0xD800 + (c.toNat - 0x10000) / 1024 = (Letter.high first).code := rfl
  have hlow : 0xDC00 + (c.toNat - 0x10000) % 1024 = (Letter.low second).code := rfl
  obtain ⟨x₁, x₂, x₃, x₄, hdigits, hunit⟩ :=
    exists_hexUnit (n := (Letter.high first).code) (by omega)
  obtain ⟨y₁, y₂, y₃, y₄, hdigits', hunit'⟩ :=
    exists_hexUnit (n := (Letter.low second).code) (by omega)
  refine ⟨[.unit x₁ x₂ x₃ x₄ _ hunit, .unit y₁ y₂ y₃ y₄ _ hunit'], ?_, fun read hread => ?_⟩
  · rw [hhigh, hlow, unitEscape, unitEscape, hdigits, hdigits']
    rfl
  · -- The first half follows no other half that it could complete, and the second completes it.
    have hfirst : addUnit read (Letter.high first).code = .high first :: read :=
      addUnit_code (hread.tail.cons fun l _ => by cases l <;> trivial)
    rw [readPieces, List.foldl_cons, List.foldl_cons, List.foldl_nil, TextPiece.after,
      TextPiece.after, hfirst, addUnit_low, hpair]

theorem spellsLetter_writeChar (c : Char) : SpellsLetter (writeChar c) (.char c) := by
  unfold writeChar
  by_cases hquote : c = '"'
  · subst hquote
    exact spellsLetter_escape rfl
  by_cases hslash : c = '\\'
  · subst hslash
    exact spellsLetter_escape rfl
  rw [if_neg hquote, if_neg hslash]
  -- The five control characters with a letter come first, then the printable ones.
  split_ifs with h₁ h₂ h₃ h₄ h₅ hprintable hunit
  any_goals
    subst c
    exact spellsLetter_escape rfl
  · exact spellsLetter_of_isPlain ⟨hquote, hslash, hprintable.1⟩
  · exact spellsLetter_unit (l := .char c) hunit
  · exact spellsLetter_pair (Nat.not_lt.1 hunit)

theorem spellsLetter_writeLetter (l : Letter) : SpellsLetter (writeLetter l) l := by
  cases l with
  | char c => exact spellsLetter_writeChar c
  | high n => exact spellsLetter_unit (l := .high n) (by simp only [Letter.code]; omega)
  | low n => exact spellsLetter_unit (l := .low n) (by simp only [Letter.code]; omega)

theorem exists_writeText {s : Letters} (hs : s.Settled) :
    ∃ pieces, textOf pieces = s ∧ '"' :: closedChars pieces = writeText s := by
  obtain ⟨pieces, htext, hclosed⟩ := exists_textOf hs fun l _ => spellsLetter_writeLetter l
  exact ⟨pieces, htext, congrArg ('"' :: ·) hclosed⟩

/-! ## Integers -/

/-- No number above zero begins with a zero. -/
theorem toDigits_eq_zero_of_head? {n : Nat} (h : (Nat.toDigits 10 n).head? = some '0') :
    Nat.toDigits 10 n = ['0'] := by
  obtain ⟨ds, hds⟩ := List.head?_eq_some_iff.1 h
  cases ds with
  | nil => exact hds
  | cons d ds =>
    have hvalue : Decimal.digitsValue (d :: ds) = n := by
      have hn := Decimal.digitsValue_toDigits n
      rw [hds, Decimal.digitsValue_cons] at hn
      rw [← hn]
      exact (Nat.zero_add _).symm.trans (congrArg (· + _) (Nat.zero_mul _).symm)
    have hlength := Decimal.length_toDigits_le (List.cons_ne_nil d ds)
    rw [hvalue, hds, List.length_cons] at hlength
    omega

/-- The literal of an integer. -/
def NumberLiteral.ofInt (n : Int) : NumberLiteral where
  sign := if n < 0 then .minus else .none
  whole := Nat.toDigits 10 n.natAbs
  fraction := none
  exponent := none
  isDigit_of_mem := by
    rw [Option.getD_none, List.append_nil]
    exact Decimal.isDigit_of_mem_toDigits
  digits_ne_nil := List.append_ne_nil_of_left_ne_nil Nat.toDigits_ne_nil _
  sign_ne_plus := by split <;> nofun
  whole_ne_nil := Nat.toDigits_ne_nil
  whole_eq_zero := toDigits_eq_zero_of_head?
  fraction_ne_nil := nofun

namespace NumberLiteral

theorem isNegative_ofInt (n : Int) : (ofInt n).sign.isNegative = decide (n < 0) := by
  by_cases hn : n < 0 <;> simp [ofInt, hn, Decimal.Sign.isNegative]

theorem value_ofInt (n : Int) : (ofInt n).value = .int n := by
  have hvalue : (if (ofInt n).sign.isNegative then
      -(Decimal.digitsValue (Nat.toDigits 10 n.natAbs) : Int)
      else Decimal.digitsValue (Nat.toDigits 10 n.natAbs)) = n := by
    rw [isNegative_ofInt, Decimal.digitsValue_toDigits]
    by_cases hn : n < 0
    · rw [if_pos (decide_eq_true hn)]
      omega
    · rw [if_neg (by simpa using hn)]
      omega
  exact congrArg Json.int hvalue

theorem chars_ofInt (n : Int) : (ofInt n).chars = (toString n).toList := by
  rw [toString_int, String.toList_ofList, ← List.append_nil (Nat.toDigits 10 n.natAbs),
    Decimal.Spelling.chars, chars_sign, isNegative_ofInt]
  rfl

end NumberLiteral

/-! ## Values -/

mutual

/-- The value with each decimal in it as the text of its scientific notation. -/
def withoutDecimals : Json → Json
  | .null => .null
  | .bool b => .bool b
  | .int n => .int n
  | .decimal d => .text d.scientific
  | .special n => .special n
  | .text s => .text s
  | .list items => .list (itemsWithoutDecimals items)
  | .object members => .object (membersWithoutDecimals members)

def itemsWithoutDecimals : List Json → List Json
  | [] => []
  | j :: rest => j.withoutDecimals :: itemsWithoutDecimals rest

def membersWithoutDecimals : List (Letters × Json) → List (Letters × Json)
  | [] => []
  | (name, j) :: rest => (name, j.withoutDecimals) :: membersWithoutDecimals rest

end

/-- The characters spell a document of this value, and its numbers can be held. -/
def Denotes (cs : List Char) (j : Json) : Prop :=
  ∃ s : Source, s.value = j ∧ Spells NumberLiteral.CanBeHeld (.value s) cs

theorem denotes_word {s : Source} {cs : List Char} (h : s.word? = some cs) : Denotes cs s.value :=
  ⟨s, rfl, .word h⟩

theorem denotes_int {n : Int} (h : (Nat.toDigits 10 n.natAbs).length ≤ maxIntegerDigits) :
    Denotes (toString n).toList (.int n) := by
  refine ⟨.number (.ofInt n), NumberLiteral.value_ofInt n, ?_⟩
  rw [← NumberLiteral.chars_ofInt]
  exact .number h

theorem denotes_text {s : Letters} (hs : s.Settled) : Denotes (writeText s) (.text s) := by
  obtain ⟨pieces, htext, hchars⟩ := exists_writeText hs
  refine ⟨.text (textOf pieces), congrArg Json.text htext, ?_⟩
  rw [← hchars]
  exact .text pieces

theorem isSpace_nil : IsSpace [] :=
  List.forall_mem_nil _

theorem isSpace_single : IsSpace [' '] :=
  List.forall_mem_singleton.2 rfl

/-- Items are written with a comma and a space between each two. -/
theorem exists_items {items : List Json} (hne : items ≠ [])
    (h : ∀ j ∈ items, Denotes (writeChars j) j.withoutDecimals) :
    ∃ ss, Source.itemValues ss = itemsWithoutDecimals items ∧
      Spells NumberLiteral.CanBeHeld (.items ss) (writeItems items) := by
  induction items with
  | nil => exact absurd rfl hne
  | cons j rest ih =>
    obtain ⟨⟨s, hvalue, hspells⟩, hrest⟩ := List.forall_mem_cons.1 h
    cases rest with
    | nil =>
      have hlast := Spells.lastItem hspells isSpace_nil
      rw [List.append_nil] at hlast
      refine ⟨[s], ?_, ?_⟩
      · rw [Source.itemValues, hvalue, itemsWithoutDecimals]
        rfl
      · rw [writeItems]
        exact hlast
    | cons j' rest =>
      obtain ⟨ss, hvalues, hitems⟩ := ih (List.cons_ne_nil _ _) hrest
      refine ⟨s :: ss, ?_, ?_⟩
      · rw [Source.itemValues, hvalue, hvalues]
        rfl
      · rw [writeItems]
        · exact .nextItem hspells isSpace_nil isSpace_single hitems
        · exact List.cons_ne_nil _ _

theorem exists_members {members : List (Letters × Json)} (hne : members ≠ [])
    (hsettled : ∀ m ∈ members, m.1.Settled)
    (h : ∀ m ∈ members, Denotes (writeChars m.2) m.2.withoutDecimals) :
    ∃ ms, Source.memberValues ms = membersWithoutDecimals members ∧
      Spells NumberLiteral.CanBeHeld (.members ms) (writeMembers members) := by
  induction members with
  | nil => exact absurd rfl hne
  | cons m rest ih =>
    obtain ⟨name, j⟩ := m
    obtain ⟨⟨s, hvalue, hspells⟩, hrest⟩ := List.forall_mem_cons.1 h
    obtain ⟨hsettledName, hsettledRest⟩ := List.forall_mem_cons.1 hsettled
    obtain ⟨pieces, rfl, hname⟩ := exists_writeText hsettledName
    have hnameChars : ∀ cs, nameChars pieces [] [' '] ++ cs =
        writeText (textOf pieces) ++ ':' :: ' ' :: cs := by
      intro cs
      rw [← hname, nameChars]
      simp
    cases rest with
    | nil =>
      have hlast : Spells NumberLiteral.CanBeHeld (.members [(textOf pieces, s)]) _ :=
        .lastMember isSpace_nil isSpace_single hspells isSpace_nil
      rw [List.append_nil, hnameChars] at hlast
      refine ⟨[(textOf pieces, s)], ?_, ?_⟩
      · rw [Source.memberValues, hvalue, membersWithoutDecimals]
        rfl
      · rw [writeMembers]
        exact hlast
    | cons m' rest =>
      obtain ⟨ms, hvalues, hmembers⟩ := ih (List.cons_ne_nil _ _) hsettledRest hrest
      have hnext : Spells NumberLiteral.CanBeHeld (.members ((textOf pieces, s) :: ms)) _ :=
        .nextMember isSpace_nil isSpace_single hspells isSpace_nil isSpace_single hmembers
      rw [hnameChars] at hnext
      refine ⟨(textOf pieces, s) :: ms, ?_, ?_⟩
      · rw [Source.memberValues, hvalue, hvalues]
        rfl
      · rw [writeMembers, List.append_assoc]
        · exact hnext
        · exact List.cons_ne_nil _ _

/-! ## Distinct names -/

theorem putMember_of_notMem {α : Type} {members : List (Letters × α)} {name : Letters} (value : α)
    (h : name ∉ members.map Prod.fst) :
    putMember members name value = members ++ [(name, value)] := by
  induction members with
  | nil => rfl
  | cons m rest ih =>
    obtain ⟨n, v⟩ := m
    obtain ⟨hne, hrest⟩ := not_or.1 (mt List.mem_cons.2 h)
    rw [putMember, if_neg fun heq => hne heq.symm, ih hrest, List.cons_append]

/-- Members of distinct names are kept as they are. -/
theorem Source.kept_eq_append (before : List (Letters × Source)) {members : List (Letters × Source)}
    (h : ((before ++ members).map Prod.fst).Nodup) : kept members before = before ++ members := by
  induction members generalizing before with
  | nil => exact (List.append_nil before).symm
  | cons m rest ih =>
    obtain ⟨name, s⟩ := m
    have hfresh : name ∉ before.map Prod.fst := by
      rw [List.map_append, List.map_cons] at h
      obtain ⟨-, -, hne⟩ := List.nodup_append.1 h
      exact fun hmem => hne name hmem name List.mem_cons_self rfl
    have hsplit : before ++ (name, s) :: rest = (before ++ [(name, s)]) ++ rest := by simp
    rw [hsplit] at h ⊢
    rw [← ih _ h, ← putMember_of_notMem s hfresh]
    rfl

theorem map_fst_memberValues (members : List (Letters × Source)) :
    (Source.memberValues members).map Prod.fst = members.map Prod.fst := by
  rw [Source.memberValues_eq, List.map_map]
  rfl

theorem map_fst_membersWithoutDecimals (members : List (Letters × Json)) :
    (membersWithoutDecimals members).map Prod.fst = members.map Prod.fst := by
  induction members with
  | nil => rfl
  | cons m rest ih =>
    obtain ⟨name, j⟩ := m
    rw [membersWithoutDecimals, List.map_cons, ih, List.map_cons]

/-! ## Whole documents -/

theorem denotes_list {items : List Json}
    (h : ∀ j ∈ items, Denotes (writeChars j) j.withoutDecimals) :
    Denotes (writeChars (.list items)) (.list (itemsWithoutDecimals items)) := by
  rw [writeChars]
  cases items with
  | nil => exact ⟨.list [], rfl, .emptyList isSpace_nil⟩
  | cons j rest =>
    obtain ⟨ss, hvalues, hitems⟩ := exists_items (List.cons_ne_nil j rest) h
    exact ⟨.list ss, congrArg Json.list hvalues, .list isSpace_nil hitems⟩

theorem denotes_object {members : List (Letters × Json)} (hnames : (members.map Prod.fst).Nodup)
    (hsettled : ∀ m ∈ members, m.1.Settled)
    (h : ∀ m ∈ members, Denotes (writeChars m.2) m.2.withoutDecimals) :
    Denotes (writeChars (.object members)) (.object (membersWithoutDecimals members)) := by
  rw [writeChars]
  cases members with
  | nil => exact ⟨.object [], rfl, .emptyObject isSpace_nil⟩
  | cons m rest =>
    obtain ⟨ms, hvalues, hmembers⟩ := exists_members (List.cons_ne_nil m rest) hsettled h
    rw [← map_fst_membersWithoutDecimals, ← hvalues, map_fst_memberValues] at hnames
    have hkept : Source.kept ms [] = ms := Source.kept_eq_append [] hnames
    have hobject := Spells.object isSpace_nil hmembers
    rw [hkept] at hobject
    exact ⟨.object ms, congrArg Json.object hvalues, hobject⟩

theorem WellFormed.denotes_writeChars {j : Json} (h : j.WellFormed) :
    Denotes (writeChars j) j.withoutDecimals := by
  induction h with
  | null => exact denotes_word (s := .null) rfl
  | bool b =>
    cases b
    · exact denotes_word (s := .bool false) rfl
    · exact denotes_word (s := .bool true) rfl
  | int hlength => exact denotes_int hlength
  | decimal _ => exact denotes_text (Letters.settled_ofString _)
  | special n => cases n <;> exact denotes_word (s := .special _) rfl
  | text hs => exact denotes_text hs
  | list _ ih => exact denotes_list ih
  | object hnames hsettled _ ih => exact denotes_object hnames hsettled ih

/-- A well-formed value is read back from its line, with texts in place of its decimals. -/
theorem WellFormed.parse_write {j : Json} (h : j.WellFormed) :
    parse (write j) = .ok j.withoutDecimals := by
  obtain ⟨s, hvalue, hspells⟩ := h.denotes_writeChars
  rw [← hvalue]
  refine parse_of_canBeHeld ⟨[], writeChars j, [], ?_, isSpace_nil, isSpace_nil, hspells⟩
  rw [write, String.toList_ofList, List.append_nil]
  rfl

end Json

end HomeCatalog
