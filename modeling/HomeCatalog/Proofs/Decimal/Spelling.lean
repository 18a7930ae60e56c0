import HomeCatalog.Proofs.Decimal.Scientific
import Mathlib.Data.List.TakeWhile

/-!
# How decimals are spelled

A finite decimal literal has an optional sign, digits with an optional point among, before or
behind them, and an optional exponent (`Decimal.Spelling`). A text is read as a finite decimal
exactly if it has such a spelling of a decimal that can be held (`Decimal.ofChars?_eq_finite_iff`),
and whatever the range, it has at most one (`Decimal.Spelling.decimal_eq_of_chars_eq`).

The reader checks the range as it goes. `Decimal.denoted?` is the reader without that check, so that
the grammar and the range can be spoken of one at a time.
-/

namespace HomeCatalog

namespace Decimal

/-! ## Signs -/

inductive Sign
  | none
  | plus
  | minus

namespace Sign

def chars : Sign → List Char
  | none => []
  | plus => ['+']
  | minus => ['-']

def isNegative : Sign → Bool
  | none | plus => false
  | minus => true

end Sign

theorem splitSign_append (sign : Sign) {cs : List Char}
    (h : ∀ c ∈ cs.head?, c ≠ '-' ∧ c ≠ '+') :
    splitSign (sign.chars ++ cs) = (sign.isNegative, cs) := by
  cases sign with
  | plus => rfl
  | minus => rfl
  | none =>
    cases cs with
    | nil => rfl
    | cons c cs =>
      obtain ⟨hminus, hplus⟩ := h c rfl
      simp [Sign.chars, Sign.isNegative, splitSign, hminus, hplus]

theorem exists_sign (cs : List Char) :
    ∃ sign : Sign, sign.chars ++ (splitSign cs).2 = cs ∧ sign.isNegative = (splitSign cs).1 := by
  unfold splitSign
  split
  · exact ⟨.minus, rfl, rfl⟩
  · exact ⟨.plus, rfl, rfl⟩
  · exact ⟨.none, rfl, rfl⟩

theorem ne_sign_of_isDigit {c : Char} (h : c.isDigit = true) : c ≠ '-' ∧ c ≠ '+' := by
  constructor <;> rintro rfl <;> exact absurd h (by decide)

/-! ## Exponents -/

structure Exponent where
  capital : Bool
  sign : Sign
  digits : List Char
  digits_ne_nil : digits ≠ []
  isDigit_of_mem : ∀ c ∈ digits, c.isDigit = true

namespace Exponent

def letter (x : Exponent) : Char :=
  if x.capital then 'E' else 'e'

def chars (x : Exponent) : List Char :=
  x.letter :: (x.sign.chars ++ x.digits)

/-- The power of ten that is meant. -/
def scale (x : Exponent) : Int :=
  if x.sign.isNegative then -(digitsValue x.digits : Int) else digitsValue x.digits

theorem letter_eq (x : Exponent) : x.letter = 'e' ∨ x.letter = 'E' := by
  unfold letter
  split
  · exact .inr rfl
  · exact .inl rfl

theorem head?_digits (x : Exponent) : ∀ c ∈ x.digits.head?, c.isDigit = true :=
  fun c hc => x.isDigit_of_mem c (List.mem_of_head? hc)

end Exponent

theorem allDigits_iff {cs : List Char} :
    allDigits cs = true ↔ cs ≠ [] ∧ ∀ c ∈ cs, c.isDigit = true := by
  rw [allDigits, Bool.and_eq_true, List.all_eq_true]
  simp

/-- What ends a literal is an exponent or nothing. -/
theorem scale?_eq_some_iff {cs : List Char} {e : Int} :
    scale? cs = some e ↔
      ∃ x : Option Exponent, x.elim [] Exponent.chars = cs ∧ x.elim 0 Exponent.scale = e := by
  constructor
  · intro h
    cases cs with
    | nil => exact ⟨none, rfl, Option.some.inj h⟩
    | cons c cs =>
      obtain ⟨sign, hcs, hsign⟩ := exists_sign cs
      simp only [scale?] at h
      split at h
      · next hletter =>
        split at h
        · next hdigits =>
          obtain ⟨hne, hascii⟩ := allDigits_iff.1 hdigits
          refine ⟨some ⟨c == 'E', sign, (splitSign cs).2, hne, hascii⟩, ?_, ?_⟩
          · change Exponent.letter _ :: (sign.chars ++ (splitSign cs).2) = _
            rw [hcs]
            rcases hletter with rfl | rfl <;> rfl
          · change (if sign.isNegative then _ else _) = e
            rw [hsign]
            exact Option.some.inj h
        · cases h
      · cases h
  · rintro ⟨x, rfl, rfl⟩
    cases x with
    | none => rfl
    | some x =>
      have hsplit : splitSign (x.sign.chars ++ x.digits) = (x.sign.isNegative, x.digits) :=
        splitSign_append x.sign fun c hc => ne_sign_of_isDigit (x.head?_digits c hc)
      have hdigits : allDigits x.digits = true :=
        allDigits_iff.2 ⟨x.digits_ne_nil, x.isDigit_of_mem⟩
      change scale? (x.letter :: (x.sign.chars ++ x.digits)) = some x.scale
      rw [scale?, if_pos x.letter_eq, hsplit]
      simp only [hdigits, if_true]
      rfl

/-! ## Literals -/

/-- A finite decimal literal in the digits `0` to `9` and without underscores. There may be no digit
before the point or none behind it, but not both. -/
structure Spelling where
  sign : Sign
  whole : List Char
  /-- The digits behind the point, if there is a point. -/
  fraction : Option (List Char)
  exponent : Option Exponent
  isDigit_of_mem : ∀ c ∈ whole ++ fraction.getD [], c.isDigit = true
  digits_ne_nil : whole ++ fraction.getD [] ≠ []

def pointChars : Option (List Char) → List Char
  | none => []
  | some ds => '.' :: ds

def exponentEnd (x : Option Exponent) : List Char :=
  x.elim [] Exponent.chars

namespace Spelling

def body (s : Spelling) : List Char :=
  s.whole ++ (pointChars s.fraction ++ exponentEnd s.exponent)

def chars (s : Spelling) : List Char :=
  s.sign.chars ++ s.body

/-- The decimal that is meant: the digits as they are, counted in the place of the last one. -/
def decimal (s : Spelling) : Decimal :=
  ofParts s.sign.isNegative s.whole (s.fraction.getD []) (s.exponent.elim 0 Exponent.scale)

end Spelling

/-- The digits behind a point, if one is next, and what follows. -/
def behind : List Char → List Char × List Char
  | '.' :: rest => (rest.takeWhile (·.isDigit), rest.dropWhile (·.isDigit))
  | rest => ([], rest)

/-- The reader of literals without the check of the range. -/
def denoted? (negative : Bool) (cs : List Char) : Option Decimal :=
  let whole := cs.takeWhile (·.isDigit)
  let after := behind (cs.dropWhile (·.isDigit))
  if whole.isEmpty && after.1.isEmpty then none
  else (scale? after.2).map (ofParts negative whole after.1)

theorem unsigned?_eq_filter (negative : Bool) (cs : List Char) :
    unsigned? negative cs = (denoted? negative cs).filter fun d => d.InRange := by
  have hunsigned : unsigned? negative cs =
      let whole := cs.takeWhile (·.isDigit)
      let after := behind (cs.dropWhile (·.isDigit))
      if whole.isEmpty && after.1.isEmpty then none
      else (scale? after.2).bind fun scale =>
        let d := ofParts negative whole after.1 scale
        if d.InRange then some d else none := rfl
  rw [hunsigned, denoted?]
  dsimp only
  split
  · rfl
  · cases scale? (behind (cs.dropWhile (·.isDigit))).2 with
    | none => rfl
    | some scale => simp [Option.filter]

/-! ## What is read -/

theorem head?_exponentEnd (x : Option Exponent) :
    ∀ c ∈ (exponentEnd x).head?, c = 'e' ∨ c = 'E' := by
  intro c hc
  cases x with
  | none => cases hc
  | some x =>
    obtain rfl : x.letter = c := Option.some.inj hc
    exact x.letter_eq

theorem behind_append {fraction : Option (List Char)} (x : Option Exponent)
    (h : ∀ c ∈ fraction.getD [], c.isDigit = true) :
    behind (pointChars fraction ++ exponentEnd x) = (fraction.getD [], exponentEnd x) := by
  have hend := head?_exponentEnd x
  cases fraction with
  | none =>
    cases hx : exponentEnd x with
    | nil => rfl
    | cons c cs =>
      rw [hx] at hend
      obtain rfl | rfl := hend c rfl <;> rfl
  | some ds =>
    have hstop : ∀ c ∈ (exponentEnd x).head?, c.isDigit = false := by
      intro c hc
      obtain rfl | rfl := hend c hc <;> rfl
    rw [Option.getD_some] at h ⊢
    rw [pointChars, List.cons_append, behind, takeWhile_append_stop h hstop,
      dropWhile_append_stop h hstop]

theorem exists_behind (cs : List Char) :
    ∃ fraction, pointChars fraction ++ (behind cs).2 = cs ∧ fraction.getD [] = (behind cs).1 ∧
      ∀ c ∈ (behind cs).1, c.isDigit = true := by
  unfold behind
  split
  · next rest =>
    refine ⟨some (rest.takeWhile (·.isDigit)), ?_, rfl, fun c hc => List.mem_takeWhile_imp hc⟩
    exact congrArg ('.' :: ·) List.takeWhile_append_dropWhile
  · exact ⟨none, rfl, rfl, fun c hc => by cases hc⟩

theorem head?_pointChars_append (fraction : Option (List Char)) (x : Option Exponent) :
    ∀ c ∈ (pointChars fraction ++ exponentEnd x).head?, c.isDigit = false := by
  intro c hc
  cases fraction with
  | none => obtain rfl | rfl := head?_exponentEnd x c hc <;> rfl
  | some ds =>
    obtain rfl : '.' = c := Option.some.inj hc
    rfl

theorem Spelling.denoted?_body (s : Spelling) :
    denoted? s.sign.isNegative s.body = some s.decimal := by
  obtain ⟨hwhole, hfraction⟩ := List.forall_mem_append.1 s.isDigit_of_mem
  have hstop := head?_pointChars_append s.fraction s.exponent
  have hscale : scale? (exponentEnd s.exponent) = some (s.exponent.elim 0 Exponent.scale) :=
    scale?_eq_some_iff.2 ⟨s.exponent, rfl, rfl⟩
  have hne : ¬(s.whole.isEmpty && (s.fraction.getD []).isEmpty) = true := by
    have hdigits := s.digits_ne_nil
    rw [ne_eq, List.append_eq_nil_iff] at hdigits
    rwa [Bool.and_eq_true, List.isEmpty_iff, List.isEmpty_iff]
  rw [denoted?, Spelling.body, takeWhile_append_stop hwhole hstop,
    dropWhile_append_stop hwhole hstop, behind_append s.exponent hfraction]
  dsimp only
  rw [if_neg hne, hscale]
  rfl

/-- What is read without the check of the range is what the text spells. -/
theorem denoted?_eq_some_iff {sign : Sign} {cs : List Char} {d : Decimal} :
    denoted? sign.isNegative cs = some d ↔
      ∃ s : Spelling, s.sign = sign ∧ s.body = cs ∧ s.decimal = d := by
  constructor
  · intro h
    obtain ⟨fraction, hafter, hfraction, hdigits⟩ := exists_behind (cs.dropWhile (·.isDigit))
    rw [← hfraction] at hdigits
    rw [denoted?, ← hfraction] at h
    split at h
    · cases h
    · next hne =>
      obtain ⟨e, hscale, rfl⟩ := Option.map_eq_some_iff.1 h
      obtain ⟨x, hx, rfl⟩ := scale?_eq_some_iff.1 hscale
      refine ⟨⟨sign, cs.takeWhile (·.isDigit), fraction, x, ?_, ?_⟩, rfl, ?_, rfl⟩
      · exact List.forall_mem_append.2 ⟨fun c hc => List.mem_takeWhile_imp hc, hdigits⟩
      · rwa [ne_eq, List.append_eq_nil_iff, ← List.isEmpty_iff, ← List.isEmpty_iff,
          ← Bool.and_eq_true]
      · change _ ++ (pointChars fraction ++ x.elim [] Exponent.chars) = cs
        rw [hx, hafter, List.takeWhile_append_dropWhile]
  · rintro ⟨s, rfl, rfl, rfl⟩
    exact s.denoted?_body

theorem Spelling.head?_body (s : Spelling) :
    ∃ c cs, s.body = c :: cs ∧ (c.isDigit = true ∨ c = '.') := by
  unfold body
  have hdigits := s.isDigit_of_mem
  have hne := s.digits_ne_nil
  cases hwhole : s.whole with
  | cons c cs =>
    rw [hwhole] at hdigits
    exact ⟨c, _, rfl, .inl (hdigits c List.mem_cons_self)⟩
  | nil =>
    cases hfraction : s.fraction with
    | none =>
      rw [hwhole, hfraction] at hne
      exact absurd rfl hne
    | some ds => exact ⟨'.', _, rfl, .inr rfl⟩

theorem Spelling.splitSign_chars (s : Spelling) :
    splitSign s.chars = (s.sign.isNegative, s.body) := by
  refine splitSign_append s.sign fun c hc => ?_
  obtain ⟨d, ds, hbody, hd⟩ := s.head?_body
  rw [hbody] at hc
  obtain rfl : d = c := Option.some.inj hc
  obtain hd | rfl := hd
  · exact ne_sign_of_isDigit hd
  · decide

theorem Spelling.special?_body (s : Spelling) : special? s.body = none := by
  obtain ⟨c, cs, hbody, hc⟩ := s.head?_body
  rw [hbody]
  obtain hc | rfl := hc
  · exact special?_of_isDigit hc cs
  · simp [special?]

/-- A text spells one decimal at most. -/
theorem Spelling.decimal_eq_of_chars_eq {s t : Spelling} (h : s.chars = t.chars) :
    s.decimal = t.decimal := by
  have hsplit := s.splitSign_chars
  rw [h, t.splitSign_chars] at hsplit
  obtain ⟨hsign, hbody⟩ := Prod.mk.inj hsplit
  have hs := s.denoted?_body
  rw [← hsign, ← hbody, t.denoted?_body] at hs
  exact (Option.some.inj hs).symm

theorem special?_ne_finite (cs : List Char) (d : Decimal) : special? cs ≠ some (.finite d) := by
  unfold special?
  dsimp only
  split
  · exact nofun
  · split
    · split <;> exact nofun
    · exact nofun

/-- A text is read as a finite decimal exactly if it spells it and the decimal can be held. -/
theorem ofChars?_eq_finite_iff {cs : List Char} {d : Decimal} :
    Literal.ofChars? cs = some (.finite d) ↔
      (∃ s : Spelling, s.chars = plainChars cs ∧ s.decimal = d) ∧ d.InRange := by
  constructor
  · intro h
    obtain ⟨sign, hchars, hsign⟩ := exists_sign (plainChars cs)
    rw [Literal.ofChars?] at h
    dsimp only at h
    split at h
    · next l hl =>
      obtain rfl : l = .finite d := Option.some.inj h
      exact absurd hl (special?_ne_finite _ d)
    · obtain ⟨d', hread, hd⟩ := Option.map_eq_some_iff.1 h
      cases hd
      rw [unsigned?_eq_filter, Option.filter_eq_some_iff, decide_eq_true_eq, ← hsign,
        denoted?_eq_some_iff] at hread
      obtain ⟨⟨s, rfl, hbody, hdecimal⟩, hrange⟩ := hread
      refine ⟨⟨s, ?_, hdecimal⟩, hrange⟩
      rw [Spelling.chars, hbody, hchars]
  · rintro ⟨⟨s, hchars, rfl⟩, hrange⟩
    have hread : unsigned? s.sign.isNegative s.body = some s.decimal := by
      rw [unsigned?_eq_filter, s.denoted?_body, Option.filter_some, if_pos (decide_eq_true hrange)]
    rw [Literal.ofChars?, ← hchars, s.splitSign_chars]
    dsimp only
    rw [s.special?_body, hread]
    rfl

end Decimal

end HomeCatalog
