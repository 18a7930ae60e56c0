import HomeCatalog.Layout.Text
import HomeCatalog.Proofs.Catalog.Values
import HomeCatalog.Proofs.Text.LetterCase
import HomeCatalog.Proofs.Value.Inference

/-!
# Values of inferred kinds

A value can be made of every text if its kind is left to the text, and the kind is that of the
literals that the text is one of (`isInferred_of_make`). The value is then written as the text
stands, but for a comma, which becomes a point, and for the case of a truth value.

The three literals exclude each other: a truth value begins with a letter, and neither an integer
nor a decimal holds one.
-/

namespace HomeCatalog

/-- The kind of the value is that of the literals that its text is one of, and the value is written
as this literal. -/
structure IsInferred (v : Value) : Prop where
  known : v.kind ≠ .unknown
  bool_iff : v.kind = .bool ↔ Text.IsCaseVariant "true" v.raw ∨ Text.IsCaseVariant "false" v.raw
  int_iff : v.kind = .int ↔ v.raw ≠ "" ∧ ∀ c ∈ v.raw.toList, Text.isDigit c = true
  decimal_iff : v.kind = .decimal ↔
    (∃ n : Numeral, ∃ s ∈ [',', '.'], n.charsWith s = v.raw.toList) ∧ v.kind ≠ .int
  render_bool : v.kind = .bool → v.render = "true" ∨ v.render = "false"
  isCaseVariant_render : v.kind = .bool → Text.IsCaseVariant v.render v.raw
  render_int : v.kind = .int → v.render = v.raw
  /-- The comma is replaced, and the digits are those of the text. -/
  render_decimal : v.kind = .decimal →
    v.render = String.ofList (v.raw.toList.map pointForComma) ∧
      ∀ n : Numeral, ∀ s ∈ [',', '.'], n.charsWith s = v.raw.toList → v.render = n.text
  render_string : v.kind = .string → v.render = quote v.raw

namespace ValueKind

/-! ## Literals exclude each other -/

theorem isPlainLetter_of_truth {word : String} (h : word = "true" ∨ word = "false") :
    ∀ x ∈ word.toList, Text.IsPlainLetter x := by
  rcases h with rfl | rfl
  · simp [Text.IsPlainLetter]
  · simp [Text.IsPlainLetter]

theorem isTruthWord_lower_iff {raw : String} :
    isTruthWord (Text.lower raw) = true ↔
      Text.IsCaseVariant "true" raw ∨ Text.IsCaseVariant "false" raw := by
  rw [isTruthWord_iff, Text.lower_eq_iff (isPlainLetter_of_truth (.inl rfl)),
    Text.lower_eq_iff (isPlainLetter_of_truth (.inr rfl))]

theorem isDigits_iff {raw : String} :
    Text.isDigits raw.toList = true ↔ raw ≠ "" ∧ ∀ c ∈ raw.toList, Text.isDigit c = true := by
  simp [Text.isDigits]

theorem toLower_of_isDigit {c : Char} (h : Text.isDigit c = true) : c.toLower = c := by
  by_cases hc : c.toNat < 0x80
  · refine Text.forall_ascii (P := fun c => Text.isDigit c = true → c.toLower = c) ?_ c hc h
    decide +kernel
  · exact Text.toLower_of_le (Nat.le_of_not_lt hc)

/-- A truth value has letters, and these characters are none. -/
theorem isTruthWord_lower_eq_false {raw : String}
    (h : ∀ c ∈ raw.toList, c = '-' ∨ c ∈ [',', '.'] ∨ Text.isDigit c = true) :
    isTruthWord (Text.lower raw) = false := by
  have hlower : ∀ c ∈ raw.toList, c.toLower ≠ 'e' := by
    intro c hc
    rcases h c hc with rfl | hc | hc
    · decide
    · simp only [List.mem_cons, List.not_mem_nil, or_false] at hc
      rcases hc with rfl | rfl <;> decide
    · rw [toLower_of_isDigit hc]
      rintro rfl
      revert hc
      decide
  have hletter : 'e' ∉ raw.toList.map Char.toLower := by
    intro hmem
    obtain ⟨c, hc, he⟩ := List.mem_map.1 hmem
    exact hlower c hc he
  rw [← Bool.not_eq_true, isTruthWord_lower_iff]
  rintro (hword | hword)
  · exact hletter (by rw [hword]; decide)
  · exact hletter (by rw [hword]; decide)

theorem infer_eq_bool_iff {raw : String} :
    infer raw = .bool ↔ isTruthWord (Text.lower raw) = true := by
  refine ⟨isTruthWord_of_infer, fun h => ?_⟩
  rw [infer, if_pos h]

theorem infer_eq_int_iff {raw : String} : infer raw = .int ↔ Text.isDigits raw.toList = true := by
  refine ⟨isDigits_of_infer, fun h => ?_⟩
  have hword := isTruthWord_lower_eq_false fun c hc => .inr (.inr (isDigit_of_isDigits h c hc))
  rw [infer, hword, if_neg Bool.false_ne_true, if_pos h]

theorem infer_eq_decimal_iff {raw : String} :
    infer raw = .decimal ↔ isFixedDecimal [',', '.'] raw.toList = true ∧ infer raw ≠ .int := by
  constructor
  · intro h
    exact ⟨isFixedDecimal_of_infer h, by rw [h]; nofun⟩
  · rintro ⟨hfixed, hint⟩
    have hword := isTruthWord_lower_eq_false fun c hc => mem_of_isFixedDecimal hfixed hc
    rw [Ne, infer_eq_int_iff] at hint
    rw [infer, hword, if_neg Bool.false_ne_true, if_neg hint, if_pos hfixed]

theorem isFixedDecimal_comma_iff {raw : String} :
    isFixedDecimal [',', '.'] raw.toList = true ↔
      ∃ n : Numeral, ∃ s ∈ [',', '.'], n.charsWith s = raw.toList := by
  refine ⟨exists_charsWith_of_isFixedDecimal (List.cons_ne_nil _ _), ?_⟩
  rintro ⟨n, s, hs, hn⟩
  rw [← hn]
  refine isFixedDecimal_charsWith hs ?_ n
  simp only [List.mem_cons, List.not_mem_nil, or_false] at hs
  rcases hs with rfl | rfl <;> decide

theorem infer_ne_unknown (raw : String) : infer raw ≠ .unknown := by
  unfold infer
  split
  · nofun
  · split
    · nofun
    · split <;> nofun

end ValueKind

/-! ## How the values are written -/

section Render

variable {v : Value} (hkind : v.kind = .infer v.raw)

include hkind

theorem Value.render_of_inferred_int (h : v.kind = .int) : v.render = v.raw := by
  have hdigits := ValueKind.infer_eq_int_iff.1 (hkind ▸ h)
  have hblank : ∀ c ∈ v.raw.toList, Text.isBlank c = false :=
    fun c hc => Text.isBlank_eq_false_of_isDigit (ValueKind.isDigit_of_isDigits hdigits c hc)
  rw [render, h]
  exact (congrArg String.ofList (Text.stripChars_of_forall hblank)).trans String.ofList_toList

theorem Value.render_of_inferred_bool (h : v.kind = .bool) (hmode : v.metadata = false) :
    v.render = Text.lower v.raw := by
  have hword := ValueKind.infer_eq_bool_iff.1 (hkind ▸ h)
  rw [render, h, hmode]
  dsimp only
  rw [ValueKind.strip_of_isTruthWord_lower hword, literal, if_neg Bool.false_ne_true]

theorem Value.render_of_inferred_decimal (h : v.kind = .decimal) (hmode : v.metadata = false) :
    v.render = String.ofList (v.raw.toList.map pointForComma) := by
  have hfixed := (ValueKind.infer_eq_decimal_iff.1 (hkind ▸ h)).1
  obtain ⟨n, s, hs, hn⟩ := ValueKind.isFixedDecimal_comma_iff.1 hfixed
  have hblank : ∀ c ∈ v.raw.toList, Text.isBlank c = false := by
    intro c hc
    rcases ValueKind.mem_of_isFixedDecimal hfixed hc with rfl | hc | hc
    · rfl
    · simp only [List.mem_cons, List.not_mem_nil, or_false] at hc
      rcases hc with rfl | rfl <;> rfl
    · exact Text.isBlank_eq_false_of_isDigit hc
  have hpoint : ValueKind.isFixedDecimal ['.'] (v.raw.toList.map pointForComma) = true := by
    rw [← hn, n.map_pointForComma_charsWith hs]
    exact n.isFixedDecimal_chars
  rw [render, h, hmode]
  dsimp only
  rw [normalizeDecimal, Text.stripChars_of_forall hblank, if_pos hpoint]
  rfl

end Render

/-! ## What is inferred -/

theorem isInferred_of_kind {v : Value} (hkind : v.kind = .infer v.raw)
    (hmode : v.metadata = false) : IsInferred v where
  known := hkind ▸ ValueKind.infer_ne_unknown v.raw
  bool_iff := by rw [hkind, ValueKind.infer_eq_bool_iff, ValueKind.isTruthWord_lower_iff]
  int_iff := by rw [hkind, ValueKind.infer_eq_int_iff, ValueKind.isDigits_iff]
  decimal_iff := by
    rw [hkind, ← ValueKind.isFixedDecimal_comma_iff]
    exact ValueKind.infer_eq_decimal_iff
  render_bool := by
    intro h
    rw [v.render_of_inferred_bool hkind h hmode]
    exact ValueKind.isTruthWord_iff.1 (ValueKind.infer_eq_bool_iff.1 (hkind ▸ h))
  isCaseVariant_render := by
    intro h
    have hword := ValueKind.infer_eq_bool_iff.1 (hkind ▸ h)
    rw [v.render_of_inferred_bool hkind h hmode]
    have hletters := ValueKind.isPlainLetter_of_truth (ValueKind.isTruthWord_iff.1 hword)
    exact (Text.lower_eq_iff hletters).1 rfl
  render_int := v.render_of_inferred_int hkind
  render_decimal := by
    intro h
    have hrender := v.render_of_inferred_decimal hkind h hmode
    refine ⟨hrender, fun n s hs hn => ?_⟩
    rw [hrender, ← hn, n.map_pointForComma_charsWith hs, Numeral.text]
  render_string := by
    intro h
    rw [Value.render, h]

/-- Every text makes a value whose kind is left to it, in either mode, and the text is a literal of
the kind. Outside of metadata the value is written as this literal. -/
theorem isInferred_of_make (name raw : String) :
    ∃ v : Value, (∀ metadata, Value.make name raw none metadata = .ok { v with metadata }) ∧
      v.name = name ∧ v.raw = raw ∧ v.metadata = false ∧ IsInferred v := by
  refine ⟨{ name, raw, kind := .infer raw, metadata := false }, fun metadata => ?_, rfl, rfl, rfl,
    isInferred_of_kind rfl rfl⟩
  rw [Value.make_eq_ok_iff]
  exact ⟨rfl, Value.fault?_eq_none_iff.2 (ValueKind.takes_infer raw)⟩

end HomeCatalog
