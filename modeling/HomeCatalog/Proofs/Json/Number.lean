import HomeCatalog.Json.Reader
import HomeCatalog.Proofs.Decimal.Spelling
import Mathlib.Data.List.Basic

/-!
# Numbers in documents

A number literal of a document is a decimal literal of a narrower form (`Json.NumberLiteral`): there
is a digit on either side of a point, no zero in front of other whole digits, and no plus sign in
front of all. It is read to its end, whatever it is followed by (`Json.readNumber_chars`).

Without an exponent a decimal in fixed notation has the digits of its literal, zeros at either end
included (`Json.NumberLiteral.fixedChars_decimal`): the digits behind the point are counted, and one
whole digit that is zero is what fixed notation puts there.
-/

namespace HomeCatalog.Json

open Decimal

/-- A number as a document spells it. -/
structure NumberLiteral extends Spelling where
  sign_ne_plus : sign ≠ .plus
  whole_ne_nil : whole ≠ []
  whole_eq_zero : whole.head? = some '0' → whole = ['0']
  fraction_ne_nil : fraction ≠ some []

/-- No number goes on with these characters. -/
def EndsNumber (rest : List Char) : Prop :=
  ∀ c ∈ rest.head?, c.isDigit = false ∧ c ≠ '.' ∧ c ≠ 'e' ∧ c ≠ 'E'

theorem endsNumber_cons {c : Char} (rest : List Char)
    (h : c.isDigit = false ∧ c ≠ '.' ∧ c ≠ 'e' ∧ c ≠ 'E') : EndsNumber (c :: rest) := by
  intro d hd
  obtain rfl : c = d := Option.some.inj hd
  exact h

namespace NumberLiteral

def isWhole (l : NumberLiteral) : Bool :=
  l.fraction.isNone && l.exponent.isNone

def value (l : NumberLiteral) : Json :=
  if l.isWhole then
    .int (if l.sign.isNegative then -(digitsValue l.whole : Int) else digitsValue l.whole)
  else .decimal l.decimal

/-- There are not too many digits of an integer, and the exponent of a decimal is in range. -/
def CanBeHeld (l : NumberLiteral) : Prop :=
  if l.isWhole then l.whole.length ≤ maxIntegerDigits else l.decimal.InRange

def IsFixed (l : NumberLiteral) : Prop :=
  l.fraction ≠ none ∧ l.exponent = none

def text (l : NumberLiteral) : String :=
  String.ofList l.chars

variable {l : NumberLiteral}

theorem isDigit_of_mem_whole : ∀ c ∈ l.whole, c.isDigit = true :=
  fun c hc => l.isDigit_of_mem c (List.mem_append_left _ hc)

theorem isDigit_of_mem_fraction : ∀ c ∈ l.fraction.getD [], c.isDigit = true :=
  fun c hc => l.isDigit_of_mem c (List.mem_append_right _ hc)

theorem chars_sign : l.sign.chars = Numeral.minus l.sign.isNegative := by
  have hplus := l.sign_ne_plus
  cases hsign : l.sign with
  | none => rfl
  | minus => rfl
  | plus => exact absurd hsign hplus

theorem exists_whole_cons : ∃ c cs, l.whole = c :: cs ∧ c.isDigit = true := by
  obtain ⟨c, cs, hwhole⟩ := List.exists_cons_of_ne_nil l.whole_ne_nil
  exact ⟨c, cs, hwhole, l.isDigit_of_mem_whole c (hwhole ▸ List.mem_cons_self)⟩

/-- A number begins with a digit, or with a minus sign before one. -/
theorem exists_chars_cons :
    ∃ c cs, (l.chars = c :: cs ∨ l.chars = '-' :: c :: cs) ∧ c.isDigit = true := by
  obtain ⟨c, cs, hwhole, hc⟩ := l.exists_whole_cons
  refine ⟨c, cs ++ (pointChars l.fraction ++ exponentEnd l.exponent), ?_, hc⟩
  have hbody : l.body = c :: (cs ++ (pointChars l.fraction ++ exponentEnd l.exponent)) := by
    rw [Spelling.body, hwhole, List.cons_append]
  rw [Spelling.chars, chars_sign, hbody]
  cases l.sign.isNegative
  · exact .inl rfl
  · exact .inr rfl

/-! ## Fixed notation -/

theorem value_of_isFixed (h : l.IsFixed) : l.value = .decimal l.decimal := by
  obtain ⟨ds, hds⟩ := Option.ne_none_iff_exists'.1 h.1
  have hwhole : l.isWhole = false := by rw [isWhole, hds, Option.isNone_some, Bool.false_and]
  rw [value, hwhole]
  rfl

/-- The point is put back where it was. -/
theorem pointed_toDigits {whole fraction : List Char} (hwhole : whole ≠ [])
    (hzero : whole.head? = some '0' → whole = ['0']) (hfraction : fraction ≠ [])
    (hdigits : ∀ c ∈ whole ++ fraction, c.isDigit = true) :
    pointed (Nat.toDigits 10 (digitsValue (whole ++ fraction))) fraction.length =
      whole ++ '.' :: fraction := by
  have hpositive := List.length_pos_iff.2 hwhole
  have hplaces := List.length_pos_iff.2 hfraction
  by_cases hhead : whole.head? = some '0'
  · -- The zero adds nothing to the number, so the digits in hand are those behind the point.
    obtain rfl := hzero hhead
    have hvalue : digitsValue (['0'] ++ fraction) = digitsValue fraction := by
      rw [digitsValue_append]
      exact (congrArg (· + _) (Nat.zero_mul _)).trans (Nat.zero_add _)
    have hshort := length_toDigits_le hfraction
    have hpadded := replicate_append_toDigits hfraction
      fun c hc => hdigits c (List.mem_append_right _ hc)
    rw [hvalue, pointed, if_neg (by omega), if_neg (by omega), hpadded]
    rfl
  · have hne := List.append_ne_nil_of_left_ne_nil hwhole fraction
    have hhead : (whole ++ fraction).head? ≠ some '0' := by
      rwa [List.head?_append_of_ne_nil _ hwhole]
    have hlength : (whole ++ fraction).length = whole.length + fraction.length :=
      List.length_append
    rw [toDigits_digitsValue hne hdigits hhead, pointed, if_neg (by omega), if_pos (by omega),
      hlength, Nat.add_sub_cancel, List.take_left, List.drop_left]

/-- The digits of a literal without an exponent are those of fixed notation. -/
theorem fixedChars_decimal (h : l.IsFixed) : l.decimal.fixedChars = l.chars := by
  obtain ⟨hfraction, hexponent⟩ := h
  obtain ⟨ds, hds⟩ := Option.ne_none_iff_exists'.1 hfraction
  have hne : ds ≠ [] := by
    rintro rfl
    exact l.fraction_ne_nil hds
  have hdigits := l.isDigit_of_mem
  rw [hds, Option.getD_some] at hdigits
  have hdecimal : l.decimal =
      { negative := l.sign.isNegative, coefficient := digitsValue (l.whole ++ ds),
        exponent := -(ds.length : Int) } := by
    rw [Spelling.decimal, ofParts, hds, hexponent, Option.getD_some, Option.elim_none, zero_sub]
  rw [hdecimal, fixedChars, if_neg (by simpa using hne), Decimal.digits, sign_eq_minus]
  simp only [neg_neg, Int.toNat_natCast]
  rw [pointed_toDigits l.whole_ne_nil l.whole_eq_zero hne hdigits, Spelling.chars, chars_sign,
    Spelling.body, hds, hexponent]
  simp [pointChars, exponentEnd]

/-! ## What is read -/

def splitMinus : List Char → Bool × List Char
  | '-' :: body => (true, body)
  | body => (false, body)

/-- The rest of a number after its sign; `cs` is the number with its sign. -/
def readUnsigned (negative : Bool) (cs body : List Char) : Read Json :=
  match body with
  | '0' :: rest => readNumberAfter negative ['0'] rest
  | _ =>
    let whole := body.takeWhile (·.isDigit)
    if whole.isEmpty then stopAt .value cs
    else readNumberAfter negative whole (body.dropWhile (·.isDigit))

theorem readNumber_eq (cs : List Char) :
    readNumber cs = readUnsigned (splitMinus cs).1 cs (splitMinus cs).2 := rfl

theorem readScale?_cons (c : Char) (cs : List Char) :
    readScale? (c :: cs) =
      if c = 'e' ∨ c = 'E' then
        if ((splitSign cs).2.takeWhile (·.isDigit)).isEmpty then none
        else some (if (splitSign cs).1 then
          -(digitsValue ((splitSign cs).2.takeWhile (·.isDigit)) : Int)
          else digitsValue ((splitSign cs).2.takeWhile (·.isDigit)),
          (splitSign cs).2.dropWhile (·.isDigit))
      else none := rfl

section Read

variable {rest : List Char} (hrest : EndsNumber rest)

theorem readScale?_append (x : Option Exponent) (hrest : EndsNumber rest) :
    readScale? (exponentEnd x ++ rest) = x.map fun x => (x.scale, rest) := by
  cases x with
  | none =>
    cases rest with
    | nil => rfl
    | cons c cs =>
      obtain ⟨-, -, he, hE⟩ := hrest c rfl
      exact if_neg (by simp [he, hE])
  | some x =>
    have hsplit : splitSign (x.sign.chars ++ (x.digits ++ rest)) =
        (x.sign.isNegative, x.digits ++ rest) := by
      refine splitSign_append x.sign fun c hc => ne_sign_of_isDigit ?_
      rw [List.head?_append_of_ne_nil _ x.digits_ne_nil] at hc
      exact x.head?_digits c hc
    have hstop : ∀ c ∈ rest.head?, c.isDigit = false := fun c hc => (hrest c hc).1
    have hne : ¬x.digits.isEmpty = true := by simpa using x.digits_ne_nil
    change readScale? (x.letter :: ((x.sign.chars ++ x.digits) ++ rest)) = some (x.scale, rest)
    rw [readScale?_cons, if_pos x.letter_eq, List.append_assoc, hsplit]
    dsimp only
    rw [takeWhile_append_stop x.isDigit_of_mem hstop, dropWhile_append_stop x.isDigit_of_mem hstop,
      if_neg hne]
    rfl

include hrest in
theorem head?_exponentEnd_append (x : Option Exponent) :
    ∀ c ∈ (exponentEnd x ++ rest).head?, c.isDigit = false ∧ c ≠ '.' := by
  intro c hc
  cases x with
  | none =>
    obtain ⟨hdigit, hpoint, -⟩ := hrest c hc
    exact ⟨hdigit, hpoint⟩
  | some x =>
    obtain rfl : x.letter = c := Option.some.inj hc
    obtain he | hE := x.letter_eq
    · rw [he]
      decide
    · rw [hE]
      decide

include hrest in
theorem readFraction?_append (x : Option Exponent) :
    readFraction? (pointChars l.fraction ++ (exponentEnd x ++ rest)) =
      l.fraction.map fun ds => (ds, exponentEnd x ++ rest) := by
  have hend := head?_exponentEnd_append hrest x
  have hdigits := l.isDigit_of_mem_fraction
  have hne := l.fraction_ne_nil
  generalize exponentEnd x ++ rest = after at hend
  cases hfraction : l.fraction with
  | none =>
    cases after with
    | nil => rfl
    | cons c cs =>
      obtain ⟨-, hpoint⟩ := hend c rfl
      change readFraction? (c :: cs) = none
      unfold readFraction?
      split
      · next h =>
        cases h
        exact absurd rfl hpoint
      · rfl
  | some ds =>
    rw [hfraction, Option.getD_some] at hdigits
    rw [hfraction] at hne
    have hstop : ∀ c ∈ after.head?, c.isDigit = false := fun c hc => (hend c hc).1
    have hnonempty : ¬ds.isEmpty = true := by
      rintro h
      exact hne (congrArg some (List.isEmpty_iff.1 h))
    change readFraction? ('.' :: (ds ++ after)) = some (ds, after)
    rw [readFraction?, takeWhile_append_stop hdigits hstop, dropWhile_append_stop hdigits hstop]
    exact if_neg hnonempty

/-- The reader decides as the literal does which limit there is, that of integers or of decimals. -/
theorem readNumberAfter_of_parts {after : List Char}
    (hafter : after = pointChars l.fraction ++ (exponentEnd l.exponent ++ rest))
    (hfraction : readFraction? after =
      l.fraction.map fun ds => (ds, exponentEnd l.exponent ++ rest))
    (hscale : readScale? (exponentEnd l.exponent ++ rest) =
      l.exponent.map fun x => (x.scale, rest)) :
    readNumberAfter l.sign.isNegative l.whole after = .ok (l.value, rest) ∨
      ¬l.CanBeHeld ∧ ∃ f, readNumberAfter l.sign.isNegative l.whole after =
        .error (.number f) := by
  have hpoint : (l.fraction.map fun ds => (ds, exponentEnd l.exponent ++ rest)).getD ([], after) =
      (l.fraction.getD [], exponentEnd l.exponent ++ rest) := by
    rw [hafter]
    cases l.fraction <;> rfl
  have hends : (l.exponent.map fun x => (x.scale, rest)).getD (0, exponentEnd l.exponent ++ rest) =
      (l.exponent.elim 0 Exponent.scale, rest) := by
    cases l.exponent <;> rfl
  unfold readNumberAfter
  rw [hfraction]
  dsimp only
  rw [hpoint]
  dsimp only
  rw [hscale, hends]
  dsimp only
  rw [Option.isNone_map, Option.isNone_map]
  change (if l.isWhole = true then _ else _) = _ ∨ _ ∧ ∃ f, (if l.isWhole = true then _ else _) = _
  rw [value, CanBeHeld]
  cases l.isWhole with
  | true =>
    simp only [if_true]
    by_cases hheld : l.whole.length ≤ maxIntegerDigits
    · exact .inl (if_neg (by omega))
    · exact .inr ⟨hheld, .integerTooLong, if_pos (by omega)⟩
  | false =>
    simp only [Bool.false_eq_true, if_false]
    by_cases hheld : l.decimal.InRange
    · exact .inl (if_pos hheld)
    · exact .inr ⟨hheld, .exponentOutOfRange, if_neg hheld⟩

include hrest in
/-- A number literal is read to its end. -/
theorem readNumberAfter_body :
    readNumberAfter l.sign.isNegative l.whole
        (pointChars l.fraction ++ (exponentEnd l.exponent ++ rest)) = .ok (l.value, rest) ∨
      ¬l.CanBeHeld ∧ ∃ f, readNumberAfter l.sign.isNegative l.whole
        (pointChars l.fraction ++ (exponentEnd l.exponent ++ rest)) = .error (.number f) :=
  readNumberAfter_of_parts rfl (readFraction?_append hrest _) (readScale?_append _ hrest)

/-- The whole part is taken in one piece: where it begins with a zero, that is all of it. -/
theorem readUnsigned_append (negative : Bool) (cs : List Char) {after : List Char}
    (hafter : ∀ c ∈ after.head?, c.isDigit = false) :
    readUnsigned negative cs (l.whole ++ after) = readNumberAfter negative l.whole after := by
  unfold readUnsigned
  split
  · next rest hbody =>
    have hzero : l.whole = ['0'] := by
      refine l.whole_eq_zero ?_
      rw [← List.head?_append_of_ne_nil _ l.whole_ne_nil, hbody]
      rfl
    rw [hzero] at hbody ⊢
    cases hbody
    rfl
  · have hne : ¬l.whole.isEmpty = true := by simpa using l.whole_ne_nil
    dsimp only
    rw [takeWhile_append_stop l.isDigit_of_mem_whole hafter,
      dropWhile_append_stop l.isDigit_of_mem_whole hafter, if_neg hne]

theorem splitMinus_append (after : List Char) :
    splitMinus (Numeral.minus l.sign.isNegative ++ (l.whole ++ after)) =
      (l.sign.isNegative, l.whole ++ after) := by
  cases l.sign.isNegative with
  | true => rfl
  | false =>
    obtain ⟨c, cs, hwhole, hc⟩ := l.exists_whole_cons
    rw [hwhole]
    change splitMinus (c :: (cs ++ after)) = (false, c :: (cs ++ after))
    unfold splitMinus
    split
    · next hminus =>
      cases hminus
      cases hc
    · rfl

include hrest in
theorem readNumber_append :
    readNumber (l.chars ++ rest) = readNumberAfter l.sign.isNegative l.whole
      (pointChars l.fraction ++ (exponentEnd l.exponent ++ rest)) := by
  have hafter : ∀ c ∈ (pointChars l.fraction ++ (exponentEnd l.exponent ++ rest)).head?,
      c.isDigit = false := by
    cases l.fraction with
    | none => exact fun c hc => (head?_exponentEnd_append hrest l.exponent c hc).1
    | some ds =>
      intro c hc
      obtain rfl : '.' = c := Option.some.inj hc
      rfl
  have hchars : l.chars ++ rest = Numeral.minus l.sign.isNegative ++
      (l.whole ++ (pointChars l.fraction ++ (exponentEnd l.exponent ++ rest))) := by
    simp only [Spelling.chars, Spelling.body, chars_sign, List.append_assoc]
  rw [readNumber_eq, hchars, splitMinus_append]
  exact readUnsigned_append _ _ hafter

include hrest in
theorem readNumber_chars :
    readNumber (l.chars ++ rest) = .ok (l.value, rest) ∨
      ¬l.CanBeHeld ∧ ∃ f, readNumber (l.chars ++ rest) = .error (.number f) := by
  rw [readNumber_append hrest]
  exact readNumberAfter_body hrest

end Read

end NumberLiteral

end HomeCatalog.Json
