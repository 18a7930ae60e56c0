import HomeCatalog.Proofs.Decimal.Spelling
import HomeCatalog.Proofs.Value.Inference

/-!
# The normal form of decimals

A text that spells a finite decimal has a normal form, and no other text has one: a numeral of the
same number that is its own normal form (`normalForm_of_normalizeDecimal`). A numeral of any script
is kept as it is, and every other literal is read and written without an exponent. What is kept is
not read, so its range is not looked at either; it takes more digits than a text can have to be out
of range without an exponent (`Numeral.inRange_spelling`).
-/

namespace HomeCatalog

/-! ## Digits of every script -/

namespace Text

theorem length_stripChars_le (cs : List Char) : (stripChars cs).length ≤ cs.length := by
  have hend := List.length_dropWhile_le isBlank (cs.dropWhile isBlank).reverse
  have hstart := List.length_dropWhile_le isBlank cs
  rw [List.length_reverse] at hend
  rw [stripChars, stripEnd, List.length_reverse]
  exact hend.trans hstart

theorem digitValue?_digitChar {v : Nat} (h : v < 10) : digitValue? (Nat.digitChar v) = some v := by
  have hall : ∀ v < 10, digitValue? (Nat.digitChar v) = some v := by decide
  exact hall v h

end Text

namespace Decimal

theorem plainChars_append (xs ys : List Char) :
    plainChars (xs ++ ys) = plainChars xs ++ plainChars ys := by
  rw [plainChars, List.filter_append, List.map_append]
  rfl

theorem plainChars_cons_of_digitValue? {c : Char} {v : Nat} (h : Text.digitValue? c = some v)
    (cs : List Char) : plainChars (c :: cs) = Nat.digitChar v :: plainChars cs := by
  have hc : c ≠ '_' := by
    rintro rfl
    have hnone : Text.digitValue? '_' = none := by decide
    rw [hnone] at h
    cases h
  rw [plainChars, List.filter_cons_of_pos (by simpa using hc), List.map_cons, h]
  rfl

/-- Digits of any script become as many of the digits `0` to `9`, and the number stays. -/
theorem plainChars_digits {ds : List Char} (h : ∀ c ∈ ds, Text.isDigit c = true) :
    (plainChars ds).length = ds.length ∧ (∀ c ∈ plainChars ds, c.isDigit = true) ∧
      digitsValue (plainChars ds) = digitsValue ds := by
  induction ds with
  | nil => exact ⟨rfl, List.forall_mem_nil _, rfl⟩
  | cons c ds ih =>
    obtain ⟨v, hv⟩ := Option.isSome_iff_exists.1 (h c List.mem_cons_self)
    obtain ⟨hlength, hdigits, hvalue⟩ := ih fun d hd => h d (List.mem_cons_of_mem _ hd)
    have hlt := Text.digitValue?_lt hv
    rw [plainChars_cons_of_digitValue? hv]
    refine ⟨?_, List.forall_mem_cons.2 ⟨?_, hdigits⟩, ?_⟩
    · rw [List.length_cons, List.length_cons, hlength]
    · have hall : ∀ v < 10, (Nat.digitChar v).isDigit = true := by decide
      exact hall v hlt
    · rw [digitsValue_cons, digitsValue_cons, Text.digitValue?_digitChar hlt, hv, hlength, hvalue]

end Decimal

/-! ## How numerals are spelled -/

namespace Numeral

open Decimal

/-- The digits behind a point, which are none without one. -/
def fraction? : List Char → Option (List Char)
  | [] => none
  | c :: cs => some (c :: cs)

@[simp] theorem getD_fraction? (ds : List Char) : (fraction? ds).getD [] = ds := by
  cases ds <;> rfl

@[simp] theorem pointChars_fraction? (ds : List Char) :
    pointChars (fraction? ds) = behindPoint ds := by
  cases ds <;> rfl

theorem plainChars_behindPoint {ds : List Char} (h : ∀ c ∈ ds, Text.isDigit c = true) :
    plainChars (behindPoint ds) = behindPoint (plainChars ds) := by
  cases ds with
  | nil => rfl
  | cons c ds =>
    have hne : plainChars (c :: ds) ≠ [] :=
      List.ne_nil_of_length_pos (by rw [(plainChars_digits h).1]; exact Nat.succ_pos _)
    rw [behindPoint_of_ne_nil hne]
    exact plainChars_append ['.'] (c :: ds)

theorem isDigit_of_mem {n : Numeral} : ∀ c ∈ n.whole ++ n.fraction, Text.isDigit c = true :=
  List.forall_mem_append.2 ⟨n.isDigit_of_mem_whole, n.isDigit_of_mem_fraction⟩

/-- A numeral is the spelling of a decimal, once its digits are `0` to `9`. -/
def spelling (n : Numeral) : Spelling where
  sign := if n.negative then .minus else .none
  whole := plainChars n.whole
  fraction := fraction? (plainChars n.fraction)
  exponent := none
  isDigit_of_mem := by
    rw [getD_fraction?, ← plainChars_append]
    exact (plainChars_digits isDigit_of_mem).2.1
  digits_ne_nil := by
    refine List.append_ne_nil_of_left_ne_nil (List.ne_nil_of_length_pos ?_) _
    rw [(plainChars_digits n.isDigit_of_mem_whole).1]
    exact List.length_pos_iff.2 n.whole_ne_nil

theorem chars_spelling (n : Numeral) : n.spelling.chars = plainChars n.chars := by
  have hsign : n.spelling.sign.chars = plainChars (minus n.negative) := by
    rw [spelling]
    cases n.negative <;> rfl
  rw [chars, plainChars_append, plainChars_append, plainChars_behindPoint n.isDigit_of_mem_fraction,
    Spelling.chars, hsign, Spelling.body, spelling, pointChars_fraction?, exponentEnd,
    Option.elim_none, List.append_nil]

theorem decimal_spelling (n : Numeral) :
    n.spelling.decimal =
      { negative := n.negative, coefficient := digitsValue (n.whole ++ n.fraction),
        exponent := -n.fraction.length } := by
  have hsign : n.spelling.sign.isNegative = n.negative := by
    rw [spelling]
    cases n.negative <;> rfl
  have hwhole := plainChars_digits n.isDigit_of_mem
  rw [Spelling.decimal, ofParts, hsign, spelling, getD_fraction?, ← plainChars_append,
    hwhole.2.2, (plainChars_digits n.isDigit_of_mem_fraction).1, Option.elim_none, zero_sub]

theorem toRat_spelling (n : Numeral) : n.spelling.decimal.toRat = n.toRat := by
  rw [decimal_spelling, Decimal.toRat, toRat, zpow_neg, zpow_natCast, div_eq_mul_inv]

/-- Without an exponent a decimal is out of range only if it has too many digits. -/
theorem inRange_spelling {n : Numeral} (h : n.chars.length ≤ 10 ^ 18) :
    n.spelling.decimal.InRange := by
  have hlength : n.whole.length + n.fraction.length ≤ 10 ^ 18 := by
    have hpoint : n.fraction.length ≤ (behindPoint n.fraction).length := by
      cases n.fraction <;> simp [behindPoint]
    rw [chars, List.length_append, List.length_append] at h
    omega
  have hdigits := length_toDigits_le (List.append_ne_nil_of_left_ne_nil n.whole_ne_nil n.fraction)
  have hwhole : 0 < n.whole.length := List.length_pos_iff.2 n.whole_ne_nil
  rw [List.length_append] at hdigits
  rw [decimal_spelling, InRange, digits, maxScale, minExponent]
  dsimp only
  omega

end Numeral

/-! ## Numerals are kept -/

/-- The digits may be of any script. -/
theorem normalizeDecimal_text (n : Numeral) : normalizeDecimal n.text = .ok n.text := by
  have hmem : ∀ c ∈ n.chars, c = '-' ∨ c = '.' ∨ Text.isDigit c = true := by
    intro c hc
    obtain hc | hc | hc := ValueKind.mem_of_isFixedDecimal n.isFixedDecimal_chars hc
    · exact .inl hc
    · exact .inr (.inl (List.mem_singleton.1 hc))
    · exact .inr (.inr hc)
  have hblank : ∀ c ∈ n.chars, Text.isBlank c = false := by
    intro c hc
    obtain rfl | rfl | hc := hmem c hc
    · rfl
    · rfl
    · exact Text.isBlank_eq_false_of_isDigit hc
  have hcomma : n.chars.map pointForComma = n.chars := by
    refine map_pointForComma_of_forall fun c hc => ?_
    rintro rfl
    obtain hc | hc | hc := hmem ',' hc <;> revert hc <;> decide
  rw [normalizeDecimal, Numeral.text, String.toList_ofList, Text.stripChars_of_forall hblank,
    hcomma, if_pos n.isFixedDecimal_chars]

/-! ## The normal form -/

/-- The text spells the decimal so, blanks around it aside and with commas for points if need be.
The digits may be of any script, and underscores count for nothing. -/
def SpelledAs (raw : String) (s : Decimal.Spelling) : Prop :=
  s.chars = Decimal.plainChars (ValueKind.decimalChars raw)

/-- The text is a literal of a finite decimal that can be held. -/
def IsFiniteLiteral (raw : String) : Prop :=
  ∃ s, SpelledAs raw s ∧ s.decimal.InRange

theorem takes_decimal_iff {raw : String} :
    ValueKind.decimal.Takes raw ↔
      (∃ n : Numeral, n.chars = ValueKind.decimalChars raw) ∨ IsFiniteLiteral raw := by
  refine or_congr_right ?_
  simp only [Decimal.ofChars?_eq_finite_iff]
  constructor
  · rintro ⟨d, ⟨s, hchars, rfl⟩, hrange⟩
    exact ⟨s, hchars, hrange⟩
  · rintro ⟨s, hchars, hrange⟩
    exact ⟨s.decimal, ⟨s, hchars, rfl⟩, hrange⟩

theorem exists_normalizeDecimal_error_iff {raw : String} :
    (∃ e, normalizeDecimal raw = .error e) ↔ ¬ValueKind.decimal.Takes raw := by
  rw [← exists_normalizeDecimal_iff]
  cases normalizeDecimal raw <;> simp

/-- What is longer than a numeral that can be held is longer than any text. -/
theorem isFiniteLiteral_of_numeral {raw : String} (h : raw.length ≤ 10 ^ 18) {n : Numeral}
    (hn : n.chars = ValueKind.decimalChars raw) : IsFiniteLiteral raw := by
  refine ⟨n.spelling, ?_, Numeral.inRange_spelling ?_⟩
  · rw [SpelledAs, n.chars_spelling, hn]
  · rw [hn, ValueKind.decimalChars, List.length_map]
    exact (Text.length_stripChars_le raw.toList).trans (by rwa [String.length_toList])

/-- Both ways to a normal form lead to a numeral of the number that is spelled. -/
theorem exists_numeral_of_normalizeDecimal {raw t : String} (h : normalizeDecimal raw = .ok t) :
    ∃ (n : Numeral) (s : Decimal.Spelling),
      t = n.text ∧ SpelledAs raw s ∧ n.toRat = s.decimal.toRat := by
  rw [normalizeDecimal_eq] at h
  split at h
  · -- The text is kept, and its spelling is that with the digits `0` to `9`.
    next hfixed =>
    obtain ⟨n, hn⟩ := ValueKind.isFixedDecimal_iff.1 hfixed
    cases h
    refine ⟨n, n.spelling, ?_, ?_, n.toRat_spelling.symm⟩
    · rw [Numeral.text, hn]
    · rw [SpelledAs, n.chars_spelling, hn]
  · split at h
    · cases h
    · next d hread =>
      obtain ⟨⟨s, hs, rfl⟩, -⟩ := Decimal.ofChars?_eq_finite_iff.1 hread
      obtain ⟨n, -, hfixed, hvalue⟩ := s.decimal.exists_numeral
      cases h
      refine ⟨n, s, ?_, hs, hvalue⟩
      rw [Decimal.fixed, hfixed, Numeral.text]
    · cases h

/-- A text has a normal form exactly if it is a literal of a finite decimal; a numeral too long to
be held has one all the same, but no text of up to `10 ^ 18` characters is one. The normal form is a
numeral, denotes the number that the literal denotes, and is its own normal form. -/
theorem normalForm_of_normalizeDecimal (raw : String) :
    ((∃ e, normalizeDecimal raw = .error e) ↔
      ¬((∃ n : Numeral, n.chars = ValueKind.decimalChars raw) ∨ IsFiniteLiteral raw)) ∧
    (raw.length ≤ 10 ^ 18 →
      ((∃ e, normalizeDecimal raw = .error e) ↔ ¬IsFiniteLiteral raw)) ∧
    ∀ t, normalizeDecimal raw = .ok t →
      ∃ n : Numeral, t = n.text ∧ normalizeDecimal t = .ok t ∧
        (∃ s, SpelledAs raw s) ∧ ∀ s, SpelledAs raw s → n.toRat = s.decimal.toRat := by
  have herror : (∃ e, normalizeDecimal raw = .error e) ↔
      ¬((∃ n : Numeral, n.chars = ValueKind.decimalChars raw) ∨ IsFiniteLiteral raw) := by
    rw [exists_normalizeDecimal_error_iff, takes_decimal_iff]
  refine ⟨herror, fun hlength => ?_, fun t ht => ?_⟩
  · rw [herror]
    refine not_congr ⟨?_, .inr⟩
    rintro (⟨n, hn⟩ | hfinite)
    · exact isFiniteLiteral_of_numeral hlength hn
    · exact hfinite
  · obtain ⟨n, s, rfl, hs, hvalue⟩ := exists_numeral_of_normalizeDecimal ht
    refine ⟨n, rfl, normalizeDecimal_text n, ⟨s, hs⟩, fun s' hs' => ?_⟩
    rw [hvalue, Decimal.Spelling.decimal_eq_of_chars_eq (hs.trans hs'.symm)]

/-- Blanks, a plus sign, an underscore, a comma and an exponent are all gone in the normal form; an
exponent out of range has none. -/
theorem normalForm_of_comma :
    (∃ (n : Numeral) (s : Decimal.Spelling), normalizeDecimal " +1_2,5E-3 " = .ok n.text ∧
      n.text = "0.0125" ∧ normalizeDecimal "0.0125" = .ok "0.0125" ∧
      SpelledAs " +1_2,5E-3 " s ∧ n.toRat = s.decimal.toRat) ∧
    ¬IsFiniteLiteral "1E1000000000000000000" := by
  have hread : normalizeDecimal " +1_2,5E-3 " = .ok "0.0125" := rfl
  obtain ⟨n, htext, hagain, ⟨s, hs⟩, hvalue⟩ :=
    (normalForm_of_normalizeDecimal " +1_2,5E-3 ").2.2 _ hread
  have hrange : normalizeDecimal "1E1000000000000000000" =
      .error (.malformed "1E1000000000000000000") := rfl
  exact ⟨⟨n, s, htext ▸ hread, htext.symm, hagain, hs, hvalue s hs⟩,
    ((normalForm_of_normalizeDecimal "1E1000000000000000000").2.1 (by decide)).1 ⟨_, hrange⟩⟩

end HomeCatalog
