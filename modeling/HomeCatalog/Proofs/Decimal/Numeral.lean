import HomeCatalog.Proofs.Decimal.Digits
import HomeCatalog.Value.Basic
import Mathlib.Algebra.Field.Rat
import Mathlib.Algebra.GroupWithZero.Units.Basic

/-!
# Numerals

A numeral is what a decimal looks like without an exponent: an optional minus sign, digits, and
digits behind a point or no point at all. It denotes a rational number, as a decimal does. The text
`Decimal.fixed` of a decimal is a numeral in the digits `0` to `9` of the very same number
(`Decimal.exists_numeral`), and a numeral in these digits is normal already
(`normalizeDecimal_numeral`).
-/

namespace HomeCatalog

/-- An optional minus sign, digits, and a point with digits behind it or neither. -/
structure Numeral where
  negative : Bool
  whole : List Char
  fraction : List Char
  whole_ne_nil : whole ≠ []
  isDigit_of_mem_whole : ∀ c ∈ whole, Text.isDigit c = true
  isDigit_of_mem_fraction : ∀ c ∈ fraction, Text.isDigit c = true

/-- A number under a sign. -/
def signed (negative : Bool) (x : ℚ) : ℚ :=
  if negative then -x else x

namespace Numeral

/-- The point and the digits behind it; a point does not stand alone. -/
def behindPoint : List Char → List Char
  | [] => []
  | c :: cs => '.' :: c :: cs

/-- The minus sign. -/
def minus (negative : Bool) : List Char :=
  if negative then ['-'] else []

def chars (n : Numeral) : List Char :=
  minus n.negative ++ (n.whole ++ behindPoint n.fraction)

def text (n : Numeral) : String :=
  String.ofList n.chars

/-- The number denoted. -/
def toRat (n : Numeral) : ℚ :=
  signed n.negative (Decimal.digitsValue (n.whole ++ n.fraction) / 10 ^ n.fraction.length)

/-- The digits are `0` to `9`. -/
def IsAscii (n : Numeral) : Prop :=
  ∀ c ∈ n.whole ++ n.fraction, c.isDigit = true

/-- A numeral in the digits `0` to `9`. -/
def ofAscii (negative : Bool) (whole fraction : List Char) (hne : whole ≠ [])
    (hascii : ∀ c ∈ whole ++ fraction, c.isDigit = true) : Numeral where
  negative := negative
  whole := whole
  fraction := fraction
  whole_ne_nil := hne
  isDigit_of_mem_whole := fun c hc =>
    Text.isDigit_of_isDigit (hascii c (List.mem_append_left _ hc))
  isDigit_of_mem_fraction := fun c hc =>
    Text.isDigit_of_isDigit (hascii c (List.mem_append_right _ hc))

theorem isAscii_ofAscii (negative : Bool) {whole fraction : List Char} (hne : whole ≠ [])
    (hascii : ∀ c ∈ whole ++ fraction, c.isDigit = true) :
    (ofAscii negative whole fraction hne hascii).IsAscii := hascii

/-! ## Numerals as texts -/

theorem eq_of_mem_minus {negative : Bool} {c : Char} (h : c ∈ minus negative) : c = '-' := by
  cases negative with
  | true => exact List.mem_singleton.1 h
  | false => cases h

theorem mem_behindPoint {c : Char} {ds : List Char} (h : c ∈ behindPoint ds) :
    c = '.' ∨ c ∈ ds := by
  cases ds with
  | nil => cases h
  | cons d ds => exact List.mem_cons.1 h

theorem behindPoint_of_ne_nil {ds : List Char} (h : ds ≠ []) : behindPoint ds = '.' :: ds := by
  cases ds with
  | nil => exact absurd rfl h
  | cons d ds => rfl

theorem unsign_minus {negative : Bool} {cs : List Char} (h : cs.head? ≠ some '-') :
    ValueKind.unsign (minus negative ++ cs) = cs := by
  cases negative with
  | true => rfl
  | false =>
    cases cs with
    | nil => rfl
    | cons c cs =>
      rw [minus, if_neg (by decide), List.nil_append, ValueKind.unsign]
      rintro cs' heq
      cases heq
      exact h rfl

theorem head?_ne_of_isDigit {c : Char} (hc : Text.isDigit c = false) {ds rest : List Char}
    (hne : ds ≠ []) (hds : ∀ d ∈ ds, Text.isDigit d = true) :
    (ds ++ rest).head? ≠ some c := by
  cases ds with
  | nil => exact absurd rfl hne
  | cons d ds =>
    rintro heq
    obtain rfl : d = c := Option.some.inj heq
    rw [hds d List.mem_cons_self] at hc
    cases hc

/-- These characters go on with neither a digit nor a point, so digits before them end there. -/
def EndsDigits (rest : List Char) : Prop :=
  ∀ c ∈ rest.head?, Text.isDigit c = false ∧ c ≠ '.'

theorem endsDigits_nil : EndsDigits [] := by
  intro c hc
  cases hc

/-- What stands behind the whole digits is no digit of the scripts at hand. -/
theorem head?_behindPoint_append {rest : List Char} (hrest : EndsDigits rest)
    (fraction : List Char) {p : Char → Bool} (hp : ∀ c, Text.isDigit c = false → p c = false) :
    ∀ c ∈ (behindPoint fraction ++ rest).head?, p c = false := by
  intro c hc
  cases fraction with
  | nil => exact hp c (hrest c hc).1
  | cons d ds =>
    obtain rfl : '.' = c := Option.some.inj hc
    exact hp '.' rfl

/-- The form that is kept digit by digit is that of a numeral and nothing behind it. -/
theorem isFixedDecimal_append (negative : Bool) {whole fraction rest : List Char}
    (hne : whole ≠ []) (hwhole : ∀ c ∈ whole, Text.isDigit c = true)
    (hfraction : ∀ c ∈ fraction, Text.isDigit c = true) (hrest : EndsDigits rest) :
    ValueKind.isFixedDecimal ['.'] (minus negative ++ (whole ++ (behindPoint fraction ++ rest))) =
      rest.isEmpty := by
  have hhead := head?_behindPoint_append hrest fraction (p := Text.isDigit) fun _ hc => hc
  rw [ValueKind.isFixedDecimal, unsign_minus (head?_ne_of_isDigit rfl hne hwhole),
    takeWhile_append_stop hwhole hhead, dropWhile_append_stop hwhole hhead]
  cases rest with
  | nil =>
    cases fraction with
    | nil => simp [behindPoint, hne]
    | cons d ds => simpa [behindPoint, hne, Text.isDigits] using hfraction
  | cons c cs =>
    obtain ⟨hc, hpoint⟩ := hrest c rfl
    cases fraction with
    | nil => simp [behindPoint, hpoint]
    | cons d ds => simp [behindPoint, Text.isDigits, hc]

theorem isFixedDecimal_chars (n : Numeral) : ValueKind.isFixedDecimal ['.'] n.chars = true := by
  have h := isFixedDecimal_append n.negative n.whole_ne_nil n.isDigit_of_mem_whole
    n.isDigit_of_mem_fraction endsDigits_nil
  rwa [List.append_nil] at h

theorem mem_chars_of_isAscii {n : Numeral} (h : n.IsAscii) {c : Char} (hc : c ∈ n.chars) :
    c = '-' ∨ c = '.' ∨ c.isDigit = true := by
  rw [chars, List.mem_append, List.mem_append] at hc
  obtain hc | hc | hc := hc
  · exact .inl (eq_of_mem_minus hc)
  · exact .inr (.inr (h c (List.mem_append_left _ hc)))
  · obtain rfl | hc := mem_behindPoint hc
    · exact .inr (.inl rfl)
    · exact .inr (.inr (h c (List.mem_append_right _ hc)))

end Numeral

theorem map_pointForComma_of_forall {cs : List Char} (h : ∀ c ∈ cs, c ≠ ',') :
    cs.map pointForComma = cs :=
  (List.map_congr_left fun c hc => if_neg (h c hc)).trans (List.map_id _)

/-- Neither the blanks around it nor commas are at issue: there are none. -/
theorem normalizeDecimal_numeral {n : Numeral} (h : n.IsAscii) :
    normalizeDecimal n.text = .ok n.text := by
  have hblank : ∀ c ∈ n.chars, Text.isBlank c = false := by
    intro c hc
    obtain rfl | rfl | hc := Numeral.mem_chars_of_isAscii h hc
    · rfl
    · rfl
    · exact Text.isBlank_of_isDigit hc
  have hcomma : n.chars.map pointForComma = n.chars := by
    refine map_pointForComma_of_forall fun c hc => ?_
    rintro rfl
    obtain hc | hc | hc := Numeral.mem_chars_of_isAscii h hc <;> revert hc <;> decide
  rw [normalizeDecimal, Numeral.text, String.toList_ofList, Text.stripChars_of_forall hblank,
    hcomma, if_pos n.isFixedDecimal_chars]

/-! ## Decimals as numerals -/

namespace Decimal

/-- The number denoted. -/
def toRat (d : Decimal) : ℚ :=
  signed d.negative (d.coefficient * 10 ^ d.exponent)

theorem sign_eq_minus (d : Decimal) : d.sign = Numeral.minus d.negative := rfl

@[simp] theorem digitsValue_digits (d : Decimal) : digitsValue d.digits = d.coefficient :=
  digitsValue_toDigits _

theorem isDigit_of_mem_digits {d : Decimal} : ∀ c ∈ d.digits, c.isDigit = true :=
  isDigit_of_mem_toDigits

theorem digits_ne_nil (d : Decimal) : d.digits ≠ [] := Nat.toDigits_ne_nil

/-- Wherever the point is put, the digits on both sides of it spell the same number. -/
theorem exists_pointed {ds : List Char} (hne : ds ≠ []) (hds : ∀ c ∈ ds, c.isDigit = true)
    (places : Nat) :
    ∃ whole fraction, pointed ds places = whole ++ Numeral.behindPoint fraction ∧ whole ≠ [] ∧
      (∀ c ∈ whole ++ fraction, c.isDigit = true) ∧ fraction.length = places ∧
      digitsValue (whole ++ fraction) = digitsValue ds := by
  unfold pointed
  by_cases hzero : places = 0
  · rw [if_pos hzero]
    exact ⟨ds, [], (List.append_nil _).symm, hne, by rwa [List.append_nil], hzero.symm,
      by rw [List.append_nil]⟩
  rw [if_neg hzero]
  by_cases hlt : places < ds.length
  · have hjoin := List.take_append_drop (ds.length - places) ds
    have hlength : (ds.drop (ds.length - places)).length = places := by
      rw [List.length_drop]
      omega
    rw [if_pos hlt]
    refine ⟨ds.take (ds.length - places), ds.drop (ds.length - places), ?_, ?_, ?_, hlength, ?_⟩
    · rw [Numeral.behindPoint_of_ne_nil (List.ne_nil_of_length_pos (by omega))]
    · exact List.ne_nil_of_length_pos (by rw [List.length_take]; omega)
    · rwa [hjoin]
    · rw [hjoin]
  · -- The digits do not reach the point, so zeros stand before them on both sides of it.
    have hzeros : ['0'] ++ (List.replicate (places - ds.length) '0' ++ ds) =
        List.replicate (places - ds.length + 1) '0' ++ ds := rfl
    rw [if_neg hlt]
    refine ⟨['0'], List.replicate (places - ds.length) '0' ++ ds, ?_, List.cons_ne_nil _ _, ?_, ?_,
      ?_⟩
    · rw [Numeral.behindPoint_of_ne_nil (List.append_ne_nil_of_right_ne_nil _ hne)]
      rfl
    · rw [hzeros]
      exact List.forall_mem_append.2 ⟨isDigit_of_mem_replicate_zero, hds⟩
    · rw [List.length_append, List.length_replicate]
      omega
    · rw [hzeros, digitsValue_append, digitsValue_replicate_zero, Nat.zero_mul, Nat.zero_add]

/-- Without a point, the digits of the coefficient are followed by zeros; a zero has none. -/
theorem exists_digits_of_exponent {d : Decimal} {k : Nat} (hk : d.exponent = k) :
    ∃ ds, d.fixedChars = Numeral.minus d.negative ++ ds ∧ ds ≠ [] ∧
      (∀ c ∈ ds, c.isDigit = true) ∧ digitsValue ds = d.coefficient * 10 ^ k := by
  unfold fixedChars
  rw [if_pos (by omega), sign_eq_minus]
  by_cases hzero : d.isZero = true
  · have hcoefficient : d.coefficient = 0 := beq_iff_eq.1 hzero
    rw [if_pos hzero]
    refine ⟨['0'], rfl, List.cons_ne_nil _ _, isDigit_of_mem_replicate_zero (k := 1), ?_⟩
    rw [hcoefficient, Nat.zero_mul]
    rfl
  · rw [if_neg hzero, hk, Int.toNat_natCast]
    refine ⟨d.digits ++ List.replicate k '0', rfl,
      List.append_ne_nil_of_left_ne_nil d.digits_ne_nil _,
      List.forall_mem_append.2 ⟨isDigit_of_mem_digits, isDigit_of_mem_replicate_zero⟩, ?_⟩
    rw [digitsValue_append, digitsValue_digits, digitsValue_replicate_zero, List.length_replicate,
      Nat.add_zero]

/-- Without its exponent a decimal is a numeral of the same number. -/
theorem exists_numeral (d : Decimal) :
    ∃ n : Numeral, n.IsAscii ∧ d.fixedChars = n.chars ∧ n.toRat = d.toRat := by
  by_cases hexp : 0 ≤ d.exponent
  · obtain ⟨k, hk⟩ := Int.eq_ofNat_of_zero_le hexp
    obtain ⟨ds, hchars, hne, hds, hvalue⟩ := exists_digits_of_exponent hk
    have hascii : ∀ c ∈ ds ++ [], c.isDigit = true := by rwa [List.append_nil]
    refine ⟨_, Numeral.isAscii_ofAscii d.negative hne hascii, ?_, ?_⟩
    · rw [hchars, Numeral.chars, Numeral.ofAscii, Numeral.behindPoint, List.append_nil]
    · rw [Numeral.toRat, Numeral.ofAscii, toRat, List.append_nil, hvalue, hk, List.length_nil,
        pow_zero, div_one, zpow_natCast, Nat.cast_mul, Nat.cast_pow, Nat.cast_ofNat]
  · obtain ⟨whole, fraction, hpointed, hne, hascii, hlength, hvalue⟩ :=
      exists_pointed d.digits_ne_nil isDigit_of_mem_digits (-d.exponent).toNat
    have hneg : d.exponent = -(fraction.length : Int) := by omega
    refine ⟨_, Numeral.isAscii_ofAscii d.negative hne hascii, ?_, ?_⟩
    · rw [fixedChars, if_neg hexp, hpointed]
      rfl
    · rw [Numeral.toRat, Numeral.ofAscii, toRat, hvalue, digitsValue_digits, hneg, zpow_neg,
        zpow_natCast, div_eq_mul_inv]

end Decimal

/-! ## Integers -/

theorem toString_int (n : Int) :
    toString n = String.ofList (Numeral.minus (n < 0) ++ Nat.toDigits 10 n.natAbs) := by
  rw [Int.toString_eq_repr, Int.repr_eq_if]
  by_cases h : 0 ≤ n
  · have habs : n.toNat = n.natAbs := by omega
    have hminus : Numeral.minus (n < 0) = [] := if_neg (by simpa using h)
    rw [if_pos h, hminus, List.nil_append, habs, Nat.repr_eq_ofList_toDigits]
  · have habs : (-n).toNat = n.natAbs := by omega
    have hminus : Numeral.minus (n < 0) = ['-'] := if_pos (by simpa using h)
    rw [if_neg h, hminus, habs, Nat.repr_eq_ofList_toDigits, String.ofList_append]

end HomeCatalog
