import HomeCatalog.Proofs.Decimal.Numeral

/-!
# Reading what scientific notation writes

Scientific notation is a numeral, and an exponent where the point would otherwise stand too far
away. Read as a literal, it is the decimal that was written, in coefficient and exponent alike
(`Decimal.ofChars?_scientificChars`), as long as the decimal can be held at all. So its normal form
is the decimal without an exponent (`normalizeDecimal_scientific`), on either side of the switch
between the two forms: without an exponent both notations agree, and with one the text is no numeral
and is read.
-/

namespace HomeCatalog

namespace Decimal

/-! ## Characters that stand for themselves -/

/-- The characters that notation is made of. -/
def IsNotation (c : Char) : Prop :=
  c.isDigit = true ∨ c = '-' ∨ c = '+' ∨ c = '.' ∨ c = 'E'

theorem digitChar_of_isDigit :
    ∀ c : Char, c.isDigit = true → Nat.digitChar (c.toNat - 48) = c :=
  forall_isDigit (by decide)

theorem ne_of_isNotation {c d : Char} (h : IsNotation c) (hd : d.isDigit = false)
    (hsigns : d ∉ ['-', '+', '.', 'E']) : c ≠ d := by
  rintro rfl
  obtain h | h := h
  · rw [hd] at h
    cases h
  · exact hsigns (by simpa using h)

theorem plainChars_of_isNotation {cs : List Char} (h : ∀ c ∈ cs, IsNotation c) :
    plainChars cs = cs := by
  have hkept : cs.filter (· ≠ '_') = cs :=
    List.filter_eq_self.2 fun c hc =>
      decide_eq_true (ne_of_isNotation (h c hc) rfl (by decide))
  rw [plainChars, hkept]
  refine (List.map_congr_left fun c hc => ?_).trans (List.map_id _)
  obtain hd | rfl | rfl | rfl | rfl := h c hc
  · rw [Text.digitValue?_of_isDigit hd]
    exact digitChar_of_isDigit c hd
  all_goals rfl

theorem isBlank_of_isNotation {c : Char} (h : IsNotation c) : Text.isBlank c = false := by
  obtain hd | rfl | rfl | rfl | rfl := h
  · exact Text.isBlank_of_isDigit hd
  all_goals rfl

/-! ## Parts of a literal -/

theorem unsigned?_of_parts (negative : Bool) {whole fraction rest : List Char}
    (hne : whole ≠ []) (hascii : ∀ c ∈ whole ++ fraction, c.isDigit = true)
    (hrest : Numeral.EndsDigits rest) :
    unsigned? negative (whole ++ (Numeral.behindPoint fraction ++ rest)) =
      (scale? rest).bind fun scale =>
        if (ofParts negative whole fraction scale).InRange then
          some (ofParts negative whole fraction scale) else none := by
  obtain ⟨hwhole, hfraction⟩ := List.forall_mem_append.1 hascii
  have hhead := Numeral.head?_behindPoint_append hrest fraction (p := (·.isDigit))
    fun _ => Text.isDigit_eq_false
  rw [unsigned?, takeWhile_append_stop hwhole hhead, dropWhile_append_stop hwhole hhead]
  cases fraction with
  | nil =>
    cases rest with
    | nil => simp [Numeral.behindPoint, hne]
    | cons c rest =>
      have hc : c ≠ '.' := (hrest c rfl).2
      simp [Numeral.behindPoint, hne, hc]
  | cons d ds =>
    have hstop : ∀ c ∈ rest.head?, c.isDigit = false :=
      fun c hc => Text.isDigit_eq_false (hrest c hc).1
    rw [Numeral.behindPoint, List.cons_append]
    simp only [takeWhile_append_stop hfraction hstop, dropWhile_append_stop hfraction hstop]
    simp

/-- A word begins with a letter. -/
theorem special?_of_isDigit {c : Char} (h : c.isDigit = true) (cs : List Char) :
    special? (c :: cs) = none := by
  have hlower : c.toLower = c := forall_isDigit (P := fun c => c.toLower = c) (by decide) c h
  have hletter : c ≠ 'i' ∧ c ≠ 'n' ∧ c ≠ 's' := by
    refine ⟨?_, ?_, ?_⟩ <;> rintro rfl <;> exact absurd h (by decide)
  simp [special?, hlower, hletter]

theorem splitSign_minus {negative : Bool} {c : Char} (hc : c.isDigit = true) (cs : List Char) :
    splitSign (Numeral.minus negative ++ c :: cs) = (negative, c :: cs) := by
  cases negative with
  | true => rfl
  | false =>
    have hminus : c ≠ '-' := by rintro rfl; exact absurd hc (by decide)
    have hplus : c ≠ '+' := by rintro rfl; exact absurd hc (by decide)
    simp [Numeral.minus, splitSign, hminus, hplus]

@[simp] theorem scale?_exponentChars (e : Int) : scale? (exponentChars e) = some e := by
  have hdigits : allDigits (Nat.toDigits 10 e.natAbs) = true := by
    rw [allDigits, Bool.and_eq_true, List.all_eq_true]
    exact ⟨by simp [Nat.toDigits_ne_nil], isDigit_of_mem_toDigits⟩
  rw [exponentChars, scale?, if_pos (.inr rfl)]
  by_cases h : 0 ≤ e
  · rw [if_pos h]
    simp only [splitSign, hdigits, digitsValue_toDigits, if_true]
    exact congrArg some (Int.natAbs_of_nonneg h)
  · rw [if_neg h]
    simp only [splitSign, hdigits, digitsValue_toDigits, if_true]
    have habs : -(e.natAbs : Int) = e := by omega
    rw [habs]

theorem isNotation_of_mem_exponentChars {e : Int} :
    ∀ c ∈ exponentChars e, IsNotation c := by
  intro c hc
  rw [exponentChars] at hc
  obtain rfl | hc := List.mem_cons.1 hc
  · exact .inr (.inr (.inr (.inr rfl)))
  obtain rfl | hc := List.mem_cons.1 hc
  · split
    · exact .inr (.inr (.inl rfl))
    · exact .inr (.inl rfl)
  · exact .inl (isDigit_of_mem_toDigits c hc)

theorem endsDigits_exponentChars {e : Int} : Numeral.EndsDigits (exponentChars e) := by
  intro c hc
  obtain rfl : 'E' = c := Option.some.inj hc
  decide

/-! ## Scientific notation -/

/-- The point of scientific notation would otherwise stand too far away. -/
def NeedsExponent (d : Decimal) : Prop :=
  ¬(d.exponent ≤ 0 ∧ -6 ≤ d.exponent + d.digits.length - 1)

theorem scientificChars_of_not_needsExponent {d : Decimal} (h : ¬d.NeedsExponent) :
    d.scientificChars = d.fixedChars := by
  have h' := not_not.1 h
  rw [scientificChars, fixedChars, if_pos h']
  by_cases hexp : 0 ≤ d.exponent
  · have hzero : d.exponent = 0 := le_antisymm h'.1 hexp
    rw [if_pos hexp, hzero]
    by_cases hvalue : d.isZero = true
    · have hdigits : d.digits = ['0'] := by
        rw [digits, beq_iff_eq.1 hvalue]
        rfl
      rw [if_pos hvalue, hdigits]
      rfl
    · rw [if_neg hvalue]
      simp [pointed]
  · rw [if_neg hexp]

/-- What the scientific notation of a decimal is made of: digits around a point, and the rest that
gives the exponent for them. -/
structure Written (d : Decimal) (whole fraction rest : List Char) (scale : Int) : Prop where
  chars : d.scientificChars =
    Numeral.minus d.negative ++ (whole ++ (Numeral.behindPoint fraction ++ rest))
  whole_ne_nil : whole ≠ []
  isDigit : ∀ c ∈ whole ++ fraction, c.isDigit = true
  endsDigits : Numeral.EndsDigits rest
  isNotation : ∀ c ∈ rest, IsNotation c
  scale_rest : scale? rest = some scale
  ofParts_eq : ofParts d.negative whole fraction scale = d
  rest_ne_nil : d.NeedsExponent → rest ≠ []

theorem exists_written (d : Decimal) : ∃ whole fraction rest scale,
    d.Written whole fraction rest scale := by
  by_cases h : d.NeedsExponent
  · obtain ⟨whole, fraction, hpointed, hne, hascii, hlength, hvalue⟩ :=
      exists_pointed d.digits_ne_nil isDigit_of_mem_digits (d.digits.length - 1)
    have hpositive : 0 < d.digits.length := List.length_pos_iff.2 d.digits_ne_nil
    have hscale : d.exponent + d.digits.length - 1 - fraction.length = d.exponent := by omega
    refine ⟨whole, fraction, _, d.exponent + d.digits.length - 1, ?_, hne, hascii,
      endsDigits_exponentChars, isNotation_of_mem_exponentChars, scale?_exponentChars _, ?_,
      fun _ => List.cons_ne_nil _ _⟩
    · rw [scientificChars, if_neg h, hpointed, List.append_assoc]
      rfl
    · rw [ofParts, hvalue, digitsValue_digits, hscale]
  · obtain ⟨whole, fraction, hpointed, hne, hascii, hlength, hvalue⟩ :=
      exists_pointed d.digits_ne_nil isDigit_of_mem_digits (-d.exponent).toNat
    have hexp := (not_not.1 h).1
    have hscale : 0 - (fraction.length : Int) = d.exponent := by omega
    refine ⟨whole, fraction, [], 0, ?_, hne, hascii, Numeral.endsDigits_nil, ?_, rfl, ?_,
      fun h' => absurd h' h⟩
    · rw [scientificChars, if_pos (not_not.1 h), hpointed, List.append_nil]
      rfl
    · intro c hc
      cases hc
    · rw [ofParts, hvalue, digitsValue_digits, hscale]

section Written

variable {d : Decimal} {whole fraction rest : List Char} {scale : Int}
  (hw : d.Written whole fraction rest scale)

include hw

theorem Written.isNotation_of_mem : ∀ c ∈ d.scientificChars, IsNotation c := by
  intro c hc
  rw [hw.chars] at hc
  simp only [List.mem_append] at hc
  obtain hc | hc | hc | hc := hc
  · exact .inr (.inl (Numeral.eq_of_mem_minus hc))
  · exact .inl (hw.isDigit c (List.mem_append_left _ hc))
  · obtain rfl | hc := Numeral.mem_behindPoint hc
    · exact .inr (.inr (.inr (.inl rfl)))
    · exact .inl (hw.isDigit c (List.mem_append_right _ hc))
  · exact hw.isNotation c hc

theorem Written.unsigned?_eq (hrange : d.InRange) :
    unsigned? d.negative (whole ++ (Numeral.behindPoint fraction ++ rest)) = some d := by
  rw [unsigned?_of_parts d.negative hw.whole_ne_nil hw.isDigit hw.endsDigits, hw.scale_rest,
    Option.bind_some, hw.ofParts_eq, if_pos hrange]

/-- With an exponent the text is no numeral. -/
theorem Written.isFixedDecimal_eq_false (h : d.NeedsExponent) :
    ValueKind.isFixedDecimal ['.'] d.scientificChars = false := by
  obtain ⟨hwhole, hfraction⟩ := List.forall_mem_append.1 hw.isDigit
  rw [hw.chars, Numeral.isFixedDecimal_append _ hw.whole_ne_nil
    (fun c hc => Text.isDigit_of_isDigit (hwhole c hc))
    (fun c hc => Text.isDigit_of_isDigit (hfraction c hc)) hw.endsDigits]
  simpa using hw.rest_ne_nil h

end Written

/-- A decimal that can be held is read back, in coefficient and exponent alike. -/
theorem ofChars?_scientificChars {d : Decimal} (hrange : d.InRange) :
    Literal.ofChars? d.scientificChars = some (.finite d) := by
  obtain ⟨whole, fraction, rest, scale, hw⟩ := d.exists_written
  have hunsigned := hw.unsigned?_eq hrange
  rw [Literal.ofChars?, plainChars_of_isNotation hw.isNotation_of_mem, hw.chars]
  obtain ⟨c, cs, rfl⟩ := List.exists_cons_of_ne_nil hw.whole_ne_nil
  have hc : c.isDigit = true := hw.isDigit c List.mem_cons_self
  rw [List.cons_append] at hunsigned ⊢
  rw [splitSign_minus hc]
  dsimp only
  rw [special?_of_isDigit hc, hunsigned]
  rfl

end Decimal

/-- The normal form of what scientific notation writes has no exponent. -/
theorem normalizeDecimal_scientific {d : Decimal} (hrange : d.InRange) :
    normalizeDecimal d.scientific = .ok d.fixed := by
  by_cases h : d.NeedsExponent
  · obtain ⟨whole, fraction, rest, scale, hw⟩ := d.exists_written
    have hblank : ∀ c ∈ d.scientificChars, Text.isBlank c = false :=
      fun c hc => Decimal.isBlank_of_isNotation (hw.isNotation_of_mem c hc)
    have hcomma : d.scientificChars.map pointForComma = d.scientificChars :=
      map_pointForComma_of_forall fun c hc =>
        Decimal.ne_of_isNotation (hw.isNotation_of_mem c hc) rfl (by decide)
    rw [normalizeDecimal, Decimal.scientific, String.toList_ofList,
      Text.stripChars_of_forall hblank, hcomma, hw.isFixedDecimal_eq_false h,
      Decimal.ofChars?_scientificChars hrange]
    rfl
  · obtain ⟨n, hascii, hchars, -⟩ := d.exists_numeral
    have htext : d.scientific = n.text := by
      rw [Decimal.scientific, Decimal.scientificChars_of_not_needsExponent h, hchars, Numeral.text]
    rw [htext, normalizeDecimal_numeral hascii, Decimal.fixed, hchars, Numeral.text]

example : normalizeDecimal "-1.25E-8" = .ok "-0.0000000125" := rfl

end HomeCatalog
