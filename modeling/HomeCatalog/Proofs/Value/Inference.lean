import HomeCatalog.Proofs.Decimal.Numeral
import Mathlib.Data.List.TakeWhile

/-!
# Kinds and the texts they take

A value is made exactly if its kind takes its text (`Value.fault?_eq_none_iff`). What a kind takes
is said here by the grammar of its literals (`ValueKind.Takes`): an integer is a numeral without a
fraction, and a decimal is a numeral, with a comma or a point, or else any finite decimal literal.
A kind that is inferred takes the text it is inferred from (`ValueKind.takes_infer`), so only a kind
that is declared can be at odds with a text.

The check strips blanks and the inference does not. Nothing comes of that: no text that is inferred
to be anything but a string holds a blank, because digits of any script are no blanks, and a blank
has no other case.
-/

namespace HomeCatalog

/-! ## Blanks -/

namespace Text

/-- What holds of twenty-nine characters holds of every blank. -/
theorem forall_isBlank {P : Char → Prop}
    (h : ∀ r ∈ blankRanges, ∀ n < r.2 + 1 - r.1, P (Char.ofNat (r.1 + n))) (c : Char)
    (hc : isBlank c = true) : P c := by
  obtain ⟨r, hr, hfirst, hlast⟩ := Ranges.has_iff.1 hc
  exact forall_run (h r hr) c hfirst (by omega)

theorem isDigit_of_isBlank {c : Char} (h : isBlank c = true) : isDigit c = false := by
  refine forall_isBlank (P := fun c => isDigit c = false) ?_ c h
  decide

/-- No digit of any script is a blank. -/
theorem isBlank_eq_false_of_isDigit {c : Char} (h : isDigit c = true) : isBlank c = false := by
  by_contra hc
  rw [isDigit_of_isBlank (Bool.eq_true_of_not_eq_false hc)] at h
  cases h

theorem lowerFull_of_isBlank {c : Char} (h : isBlank c = true) :
    c.toNat ≠ 0x3A3 ∧ lowerFull c = [c] := by
  refine forall_isBlank (P := fun c => c.toNat ≠ 0x3A3 ∧ lowerFull c = [c]) ?_ c h
  decide

theorem mem_lowerAfter_of_isBlank {c : Char} (hc : isBlank c = true) {before cs : List Char}
    (h : c ∈ cs) : c ∈ lowerAfter before cs := by
  induction cs generalizing before with
  | nil => cases h
  | cons d cs ih =>
    rw [lowerAfter, List.mem_append]
    rcases List.mem_cons.1 h with rfl | h
    · obtain ⟨hsigma, hlower⟩ := lowerFull_of_isBlank hc
      left
      rw [if_neg hsigma, hlower]
      exact List.mem_singleton_self _
    · exact .inr (ih h)

end Text

namespace ValueKind

/-! ## Truth values -/

theorem isTruthWord_iff {s : String} : isTruthWord s = true ↔ s = "true" ∨ s = "false" := by
  simp [isTruthWord]

/-- A text that is a truth value up to case has no blanks around it. -/
theorem strip_of_isTruthWord_lower {raw : String} (h : isTruthWord (Text.lower raw) = true) :
    Text.strip raw = raw := by
  have hall : (Text.lower raw).toList.all (fun c => !Text.isBlank c) = true := by
    rcases isTruthWord_iff.1 h with h | h <;> rw [h] <;> decide
  have hword : ∀ c ∈ (Text.lower raw).toList, Text.isBlank c = false :=
    fun c hc => by simpa using List.all_eq_true.1 hall c hc
  have hblank : ∀ c ∈ raw.toList, Text.isBlank c = false := by
    intro c hc
    by_contra hb
    have hb : Text.isBlank c = true := Bool.eq_true_of_not_eq_false hb
    have hmem : c ∈ (Text.lower raw).toList := by
      rw [Text.lower, String.toList_ofList]
      exact Text.mem_lowerAfter_of_isBlank hb hc
    rw [hword c hmem] at hb
    cases hb
  rw [Text.strip, Text.stripChars_of_forall hblank, String.ofList_toList]

/-! ## Integers -/

/-- The numeral of some digits without a fraction. -/
def wholeNumeral (negative : Bool) (ds : List Char) (hds : Text.isDigits ds = true) : Numeral where
  negative := negative
  whole := ds
  fraction := []
  whole_ne_nil := by
    rintro rfl
    cases hds
  isDigit_of_mem_whole := by
    rw [Text.isDigits, Bool.and_eq_true, List.all_eq_true] at hds
    exact hds.2
  isDigit_of_mem_fraction := fun _ hc => by cases hc

theorem exists_minus_unsign (cs : List Char) :
    ∃ negative, cs = Numeral.minus negative ++ unsign cs := by
  unfold unsign
  split
  · exact ⟨true, rfl⟩
  · exact ⟨false, rfl⟩

theorem isSignedInteger_iff {cs : List Char} :
    isSignedInteger cs = true ↔ ∃ n : Numeral, n.fraction = [] ∧ n.chars = cs := by
  constructor
  · intro h
    obtain ⟨negative, hcs⟩ := exists_minus_unsign cs
    refine ⟨wholeNumeral negative (unsign cs) h, rfl, ?_⟩
    change Numeral.minus negative ++ (unsign cs ++ []) = cs
    rw [List.append_nil, ← hcs]
  · rintro ⟨n, hfraction, rfl⟩
    have hhead : (n.whole ++ []).head? ≠ some '-' :=
      Numeral.head?_ne_of_isDigit rfl n.whole_ne_nil n.isDigit_of_mem_whole
    rw [isSignedInteger, Numeral.chars, hfraction, Numeral.behindPoint,
      Numeral.unsign_minus hhead, List.append_nil, Text.isDigits, Bool.and_eq_true,
      List.all_eq_true]
    exact ⟨by simpa using n.whole_ne_nil, n.isDigit_of_mem_whole⟩

theorem isDigit_of_isDigits {cs : List Char} (h : Text.isDigits cs = true) :
    ∀ c ∈ cs, Text.isDigit c = true := by
  rw [Text.isDigits, Bool.and_eq_true, List.all_eq_true] at h
  exact h.2

/-! ## Decimals -/

end ValueKind

namespace Numeral

/-- A separator and the digits behind it; it does not stand alone. -/
def behind (separator : Char) : List Char → List Char
  | [] => []
  | c :: cs => separator :: c :: cs

/-- The numeral with this separator in the place of the point. -/
def charsWith (separator : Char) (n : Numeral) : List Char :=
  minus n.negative ++ (n.whole ++ behind separator n.fraction)

theorem behind_of_ne_nil {separator : Char} {ds : List Char} (h : ds ≠ []) :
    behind separator ds = separator :: ds := by
  cases ds with
  | nil => exact absurd rfl h
  | cons d ds => rfl

theorem charsWith_point (n : Numeral) : n.charsWith '.' = n.chars := by
  rw [charsWith, chars]
  cases n.fraction <;> rfl

theorem pointForComma_of_isDigit {c : Char} (h : Text.isDigit c = true) : pointForComma c = c := by
  refine if_neg ?_
  rintro rfl
  revert h
  decide

/-- Whether the separator is a comma or a point does not matter once commas are read as points. -/
theorem map_pointForComma_charsWith {separator : Char} (hs : separator ∈ [',', '.'])
    (n : Numeral) : (n.charsWith separator).map pointForComma = n.chars := by
  have hdigits : ∀ {ds : List Char}, (∀ c ∈ ds, Text.isDigit c = true) →
      ds.map pointForComma = ds := fun h =>
    (List.map_congr_left fun c hc => pointForComma_of_isDigit (h c hc)).trans (List.map_id _)
  have hminus : (minus n.negative).map pointForComma = minus n.negative := by
    cases n.negative <;> rfl
  have hpoint : pointForComma separator = '.' := by
    simp only [List.mem_cons, List.not_mem_nil, or_false] at hs
    rcases hs with rfl | rfl <;> rfl
  have hfraction := hdigits n.isDigit_of_mem_fraction
  rw [charsWith, chars, List.map_append, List.map_append, hminus, hdigits n.isDigit_of_mem_whole]
  cases hf : n.fraction with
  | nil => rfl
  | cons d ds =>
    rw [hf] at hfraction
    rw [behind, behindPoint, List.map_cons, hfraction, hpoint]

end Numeral

namespace ValueKind

/-- The characters of a fixed decimal are a sign, digits, and separators. -/
theorem mem_of_isFixedDecimal {separators cs : List Char}
    (h : isFixedDecimal separators cs = true) {c : Char} (hc : c ∈ cs) :
    c = '-' ∨ c ∈ separators ∨ Text.isDigit c = true := by
  obtain ⟨negative, hcs⟩ := exists_minus_unsign cs
  rw [hcs, List.mem_append] at hc
  rcases hc with hc | hc
  · exact .inl (Numeral.eq_of_mem_minus hc)
  right
  rw [isFixedDecimal, Bool.and_eq_true] at h
  rw [← List.takeWhile_append_dropWhile (p := Text.isDigit) (l := unsign cs),
    List.mem_append] at hc
  rcases hc with hc | hc
  · exact .inr (List.mem_takeWhile_imp hc)
  · cases hd : (unsign cs).dropWhile Text.isDigit with
    | nil =>
      rw [hd] at hc
      cases hc
    | cons d rest =>
      have hrest := h.2
      rw [hd] at hrest hc
      simp only [Bool.and_eq_true, List.contains_iff_mem] at hrest
      rcases List.mem_cons.1 hc with rfl | hc
      · exact .inl hrest.1
      · exact .inr (isDigit_of_isDigits hrest.2 c hc)

/-- A fixed decimal is a numeral with one of the separators for the point. -/
theorem exists_charsWith_of_isFixedDecimal {separators cs : List Char} (hsome : separators ≠ [])
    (h : isFixedDecimal separators cs = true) :
    ∃ n : Numeral, ∃ s ∈ separators, n.charsWith s = cs := by
  obtain ⟨negative, hcs⟩ := exists_minus_unsign cs
  have hbody := List.takeWhile_append_dropWhile (p := Text.isDigit) (l := unsign cs)
  have hwhole : ∀ c ∈ (unsign cs).takeWhile Text.isDigit, Text.isDigit c = true :=
    fun c hc => List.mem_takeWhile_imp hc
  rw [isFixedDecimal, Bool.and_eq_true] at h
  obtain ⟨hne, hrest⟩ := h
  have hne : (unsign cs).takeWhile Text.isDigit ≠ [] := by simpa using hne
  cases hd : (unsign cs).dropWhile Text.isDigit with
  | nil =>
    -- Without a fraction any of the separators will do.
    obtain ⟨s, hs⟩ := List.exists_mem_of_ne_nil separators hsome
    refine ⟨⟨negative, _, [], hne, hwhole, fun _ hc => by cases hc⟩, s, hs, ?_⟩
    rw [hd] at hbody
    rw [Numeral.charsWith, Numeral.behind, hbody, ← hcs]
  | cons s rest =>
    rw [hd] at hrest hbody
    simp only [Bool.and_eq_true, List.contains_iff_mem] at hrest
    obtain ⟨hs, hdigits⟩ := hrest
    refine ⟨⟨negative, _, rest, hne, hwhole, isDigit_of_isDigits hdigits⟩, s, hs, ?_⟩
    have hrestne : rest ≠ [] := by
      rintro rfl
      cases hdigits
    rw [Numeral.charsWith, Numeral.behind_of_ne_nil hrestne, hbody, ← hcs]

theorem isFixedDecimal_charsWith {separators : List Char} {s : Char} (hs : s ∈ separators)
    (hdigit : Text.isDigit s = false) (n : Numeral) :
    isFixedDecimal separators (n.charsWith s) = true := by
  have hstop : ∀ c ∈ (Numeral.behind s n.fraction).head?, Text.isDigit c = false := by
    intro c hc
    cases hf : n.fraction with
    | nil =>
      rw [hf] at hc
      cases hc
    | cons d ds =>
      rw [hf] at hc
      obtain rfl : s = c := Option.some.inj hc
      exact hdigit
  rw [isFixedDecimal, Numeral.charsWith,
    Numeral.unsign_minus (Numeral.head?_ne_of_isDigit rfl n.whole_ne_nil n.isDigit_of_mem_whole),
    takeWhile_append_stop n.isDigit_of_mem_whole hstop,
    dropWhile_append_stop n.isDigit_of_mem_whole hstop, Bool.and_eq_true]
  refine ⟨by simpa using n.whole_ne_nil, ?_⟩
  have hfraction := n.isDigit_of_mem_fraction
  cases hf : n.fraction with
  | nil => rfl
  | cons d ds =>
    rw [hf] at hfraction
    simpa [Numeral.behind, hs, Text.isDigits] using hfraction

/-- The form that is kept digit by digit is the form of a numeral. -/
theorem isFixedDecimal_iff {cs : List Char} :
    isFixedDecimal ['.'] cs = true ↔ ∃ n : Numeral, n.chars = cs := by
  constructor
  · intro h
    obtain ⟨n, s, hs, hn⟩ := exists_charsWith_of_isFixedDecimal (List.cons_ne_nil _ _) h
    obtain rfl := List.mem_singleton.1 hs
    exact ⟨n, by rw [← hn, n.charsWith_point]⟩
  · rintro ⟨n, rfl⟩
    exact n.isFixedDecimal_chars

/-! ## What a kind takes -/

/-- The characters that are read as a decimal: no blanks around them, and points for commas. -/
def decimalChars (raw : String) : List Char :=
  (Text.stripChars raw.toList).map pointForComma

/-- The text is a literal of the kind, blanks around it aside. -/
def Takes : ValueKind → String → Prop
  | .int, raw => ∃ n : Numeral, n.fraction = [] ∧ n.chars = Text.stripChars raw.toList
  | .decimal, raw =>
    (∃ n : Numeral, n.chars = decimalChars raw) ∨
      ∃ d, Decimal.Literal.ofChars? (decimalChars raw) = some (.finite d)
  | .bool, raw => Text.lower (Text.strip raw) = "true" ∨ Text.lower (Text.strip raw) = "false"
  | .string, _ | .unknown, _ => True

end ValueKind

theorem normalizeDecimal_eq (raw : String) :
    normalizeDecimal raw =
      if ValueKind.isFixedDecimal ['.'] (ValueKind.decimalChars raw) then
        .ok (String.ofList (ValueKind.decimalChars raw))
      else match Decimal.Literal.ofChars? (ValueKind.decimalChars raw) with
        | none => .error (.malformed raw)
        | some (.finite d) => .ok d.fixed
        | some _ => .error (.notFinite raw) := rfl

/-- A decimal has a normal form exactly if it is a numeral or any other finite literal. -/
theorem exists_normalizeDecimal_iff {raw : String} :
    (∃ s, normalizeDecimal raw = .ok s) ↔ ValueKind.decimal.Takes raw := by
  have htakes : ValueKind.decimal.Takes raw ↔
      ValueKind.isFixedDecimal ['.'] (ValueKind.decimalChars raw) = true ∨
        ∃ d, Decimal.Literal.ofChars? (ValueKind.decimalChars raw) = some (.finite d) := by
    rw [ValueKind.isFixedDecimal_iff]
    rfl
  rw [htakes, normalizeDecimal_eq]
  generalize ValueKind.decimalChars raw = cs
  by_cases hfixed : ValueKind.isFixedDecimal ['.'] cs = true
  · simp [hfixed]
  · rw [if_neg hfixed]
    cases Decimal.Literal.ofChars? cs with
    | none => simp [hfixed]
    | some l => cases l <;> simp [hfixed]

/-- A value is as its kind wants it exactly if the kind takes its text. -/
theorem Value.fault?_eq_none_iff {v : Value} : v.fault? = none ↔ v.kind.Takes v.raw := by
  unfold fault?
  cases v.kind with
  | int =>
    dsimp only
    rw [ValueKind.Takes, ← ValueKind.isSignedInteger_iff]
    split <;> simp_all
  | decimal =>
    rw [← exists_normalizeDecimal_iff]
    cases normalizeDecimal v.raw <;> simp
  | bool =>
    dsimp only
    rw [ValueKind.Takes, ← ValueKind.isTruthWord_iff]
    split <;> simp_all
  | string => exact iff_of_true rfl trivial
  | unknown => exact iff_of_true rfl trivial

/-! ## What is inferred -/

namespace ValueKind

theorem isTruthWord_of_infer {raw : String} (h : infer raw = .bool) :
    isTruthWord (Text.lower raw) = true := by
  unfold infer at h
  split at h
  · next hword => exact hword
  · split at h
    · cases h
    · split at h <;> cases h

theorem isDigits_of_infer {raw : String} (h : infer raw = .int) :
    Text.isDigits raw.toList = true := by
  unfold infer at h
  split at h
  · cases h
  · split at h
    · next hdigits => exact hdigits
    · split at h <;> cases h

theorem isFixedDecimal_of_infer {raw : String} (h : infer raw = .decimal) :
    isFixedDecimal [',', '.'] raw.toList = true := by
  unfold infer at h
  split at h
  · cases h
  · split at h
    · cases h
    · split at h
      · next hfixed => exact hfixed
      · cases h

/-- What is inferred from a text takes the text. -/
theorem takes_infer (raw : String) : (infer raw).Takes raw := by
  cases h : infer raw with
  | bool =>
    have hword := isTruthWord_of_infer h
    change Text.lower (Text.strip raw) = "true" ∨ Text.lower (Text.strip raw) = "false"
    rw [strip_of_isTruthWord_lower hword]
    exact isTruthWord_iff.1 hword
  | int =>
    have hdigits := isDigits_of_infer h
    have hblank : ∀ c ∈ raw.toList, Text.isBlank c = false :=
      fun c hc => Text.isBlank_eq_false_of_isDigit (isDigit_of_isDigits hdigits c hc)
    refine ⟨wholeNumeral false raw.toList hdigits, rfl, ?_⟩
    rw [Text.stripChars_of_forall hblank]
    exact List.append_nil _
  | decimal =>
    have hfixed := isFixedDecimal_of_infer h
    have hblank : ∀ c ∈ raw.toList, Text.isBlank c = false := by
      intro c hc
      rcases mem_of_isFixedDecimal hfixed hc with rfl | hc | hc
      · rfl
      · simp only [List.mem_cons, List.not_mem_nil, or_false] at hc
        rcases hc with rfl | rfl <;> rfl
      · exact Text.isBlank_eq_false_of_isDigit hc
    obtain ⟨n, s, hs, hn⟩ := exists_charsWith_of_isFixedDecimal (List.cons_ne_nil _ _) hfixed
    left
    refine ⟨n, ?_⟩
    rw [decimalChars, Text.stripChars_of_forall hblank, ← hn, n.map_pointForComma_charsWith hs]
  | string => trivial
  | unknown => trivial

end ValueKind

end HomeCatalog
