import HomeCatalog.Layout.Streams
import HomeCatalog.Proofs.Catalog.Values
import HomeCatalog.Proofs.Text.CodePage
import HomeCatalog.Proofs.Value.Inference

/-!
# How numbers are written

An integer or a decimal that passes its check is written as a numeral (`number_of_make`). Digits of
every script pass. Those of a text that has the form already are written as they are, and the code
page holds no others than `0` to `9`, so the numeral of such a text has bytes only if its digits are
these. A decimal of any other form is read and written anew, and then its digits are.
-/

namespace HomeCatalog

namespace Text

theorem mem_dropWhile_isBlank_iff {c : Char} (h : isBlank c = false) {cs : List Char} :
    c ∈ cs.dropWhile isBlank ↔ c ∈ cs := by
  refine ⟨fun hc => (List.dropWhile_sublist _).subset hc, fun hc => ?_⟩
  rw [← List.takeWhile_append_dropWhile (p := isBlank) (l := cs), List.mem_append] at hc
  rcases hc with hc | hc
  · rw [List.mem_takeWhile_imp hc] at h
    cases h
  · exact hc

theorem mem_stripChars_iff {c : Char} (h : isBlank c = false) {cs : List Char} :
    c ∈ stripChars cs ↔ c ∈ cs := by
  rw [stripChars, stripEnd, List.mem_reverse, mem_dropWhile_isBlank_iff h, List.mem_reverse,
    mem_dropWhile_isBlank_iff h]

end Text

/-- Neither blanks nor commas are digits. -/
theorem ValueKind.mem_decimalChars_iff {c : Char} (h : Text.isDigit c = true) {raw : String} :
    c ∈ decimalChars raw ↔ c ∈ raw.toList := by
  have hstrip : c ∈ Text.stripChars raw.toList ↔ c ∈ raw.toList :=
    Text.mem_stripChars_iff (Text.isBlank_eq_false_of_isDigit h)
  rw [← hstrip, decimalChars, List.mem_map]
  constructor
  · rintro ⟨d, hd, rfl⟩
    have hcomma : d ≠ ',' := by
      rintro rfl
      exact absurd h (by decide)
    rwa [pointForComma, if_neg hcomma]
  · intro hc
    exact ⟨c, hc, Numeral.pointForComma_of_isDigit h⟩

namespace Numeral

variable {n : Numeral}

theorem mem_chars_of_mem {c : Char} (h : c ∈ n.whole ++ n.fraction) : c ∈ n.chars := by
  rw [chars, List.mem_append, List.mem_append]
  rcases List.mem_append.1 h with h | h
  · exact .inr (.inl h)
  · rw [behindPoint_of_ne_nil (List.ne_nil_of_mem h)]
    exact .inr (.inr (List.mem_cons_of_mem _ h))

theorem isDigit_of_mem_append {c : Char} (h : c ∈ n.whole ++ n.fraction) :
    Text.isDigit c = true := by
  rcases List.mem_append.1 h with h | h
  · exact n.isDigit_of_mem_whole c h
  · exact n.isDigit_of_mem_fraction c h

/-- The digits are `0` to `9` exactly if the text that they are taken from has no others. -/
theorem isAscii_iff_of_mem {cs : List Char}
    (h : ∀ c, Text.isDigit c = true → (c ∈ n.chars ↔ c ∈ cs)) :
    n.IsAscii ↔ ∀ c ∈ cs, Text.isDigit c = true → c.isDigit = true := by
  constructor
  · intro hn c hc hdigit
    rcases mem_chars_of_isAscii hn ((h c hdigit).2 hc) with rfl | rfl | hascii
    · revert hdigit
      decide
    · revert hdigit
      decide
    · exact hascii
  · intro hcs c hc
    have hdigit := isDigit_of_mem_append hc
    exact hcs c ((h c hdigit).1 (mem_chars_of_mem hc)) hdigit

theorem forall_codePageByte?_iff :
    (∀ c ∈ n.chars, (Text.codePageByte? c).isSome = true) ↔ n.IsAscii := by
  constructor
  · intro h c hc
    exact (Text.codePageByte?_of_isDigit (isDigit_of_mem_append hc)).1 (h c (mem_chars_of_mem hc))
  · intro hn c hc
    rcases mem_chars_of_isAscii hn hc with rfl | rfl | hdigit
    · rfl
    · rfl
    · exact (Text.codePageByte?_of_isDigit (Text.isDigit_of_isDigit hdigit)).2 hdigit

/-- The quotes have bytes in any case. -/
theorem exists_encodeText_literal_iff {label : String} {quoted : Bool} :
    (∃ bs, encodeText label (literal quoted n.text) = .ok bs) ↔ n.IsAscii := by
  have hbytes : (∃ bs, encodeText label (literal quoted n.text) = .ok bs) ↔
      ∀ c ∈ (literal quoted n.text).toList, (Text.codePageByte? c).isSome = true := by
    simp only [encodeText, mapError_eq_ok_iff, Text.exists_encodeCodePage_iff]
  have hquote : (Text.codePageByte? '"').isSome = true := rfl
  rw [hbytes, ← forall_codePageByte?_iff, text, literal]
  cases quoted <;> simp [hquote, or_imp, forall_and]

end Numeral

/-- The text is a decimal but no numeral, so it is read and written anew. -/
def Value.IsRewritten (v : Value) : Prop :=
  v.kind = .decimal ∧ ¬∃ n : Numeral, n.chars = ValueKind.decimalChars v.raw

/-- The value is written as this numeral, between quotes if it is a decimal of the metadata. -/
structure WrittenNumber (v : Value) (n : Numeral) : Prop where
  render : v.render = literal (v.metadata && v.kind == .decimal) n.text
  whole : v.kind = .int → n.fraction = []
  isAscii_iff : n.IsAscii ↔
    v.IsRewritten ∨ ∀ c ∈ v.raw.toList, Text.isDigit c = true → c.isDigit = true
  encodes_iff : ∀ label, (∃ bs, encodeText label v.render = .ok bs) ↔ n.IsAscii

/-- Whether a numeral has bytes is decided by its digits alone. -/
theorem WrittenNumber.of_render {v : Value} {n : Numeral}
    (hrender : v.render = literal (v.metadata && v.kind == .decimal) n.text)
    (hwhole : v.kind = .int → n.fraction = [])
    (hascii : n.IsAscii ↔
      v.IsRewritten ∨ ∀ c ∈ v.raw.toList, Text.isDigit c = true → c.isDigit = true) :
    WrittenNumber v n where
  render := hrender
  whole := hwhole
  isAscii_iff := hascii
  encodes_iff := fun label => by rw [hrender, Numeral.exists_encodeText_literal_iff]

/-- What a decimal is written as is its own text or a numeral in the digits `0` to `9`. -/
theorem exists_numeral_of_takes {raw : String} (h : ValueKind.decimal.Takes raw) :
    ∃ n : Numeral, normalizeDecimal raw = .ok n.text ∧
      (n.chars = ValueKind.decimalChars raw ∨
        (¬∃ m : Numeral, m.chars = ValueKind.decimalChars raw) ∧ n.IsAscii) := by
  by_cases hkept : ∃ m : Numeral, m.chars = ValueKind.decimalChars raw
  · obtain ⟨n, hn⟩ := hkept
    refine ⟨n, ?_, .inl hn⟩
    rw [normalizeDecimal_eq, if_pos (ValueKind.isFixedDecimal_iff.2 ⟨n, hn⟩), ← hn, Numeral.text]
  · obtain ⟨d, hd⟩ := h.resolve_left hkept
    obtain ⟨n, hascii, hfixed, -⟩ := d.exists_numeral
    refine ⟨n, ?_, .inr ⟨hkept, hascii⟩⟩
    rw [normalizeDecimal_eq, if_neg (mt ValueKind.isFixedDecimal_iff.1 hkept), hd]
    dsimp only
    rw [Decimal.fixed, hfixed, Numeral.text]

theorem exists_writtenNumber_of_int {v : Value} (hk : v.kind = .int) (hv : v.fault? = none) :
    ∃ n, WrittenNumber v n := by
  have htakes := Value.fault?_eq_none_iff.1 hv
  rw [hk] at htakes
  obtain ⟨n, hfraction, hn⟩ := htakes
  have hrender : v.render = literal (v.metadata && v.kind == .decimal) n.text := by
    have hplain : (v.metadata && v.kind == .decimal) = false := by
      rw [hk]
      exact Bool.and_false _
    rw [hplain, literal, if_neg Bool.false_ne_true, Value.render, hk, Numeral.text, hn]
    rfl
  have hascii : n.IsAscii ↔ ∀ c ∈ v.raw.toList, Text.isDigit c = true → c.isDigit = true := by
    refine Numeral.isAscii_iff_of_mem fun c hc => ?_
    rw [hn, Text.mem_stripChars_iff (Text.isBlank_eq_false_of_isDigit hc)]
  have hnot : ¬v.IsRewritten := by
    intro h
    rw [Value.IsRewritten, hk] at h
    cases h.1
  exact ⟨n, .of_render hrender (fun _ => hfraction) (by rw [hascii, or_iff_right hnot])⟩

theorem exists_writtenNumber_of_decimal {v : Value} (hk : v.kind = .decimal)
    (hv : v.fault? = none) : ∃ n, WrittenNumber v n := by
  have htakes := Value.fault?_eq_none_iff.1 hv
  rw [hk] at htakes
  obtain ⟨n, hnormal, hn⟩ := exists_numeral_of_takes htakes
  have hrender : v.render = literal (v.metadata && v.kind == .decimal) n.text := by
    have hquoted : (v.metadata && v.kind == .decimal) = v.metadata := by
      rw [hk]
      exact Bool.and_true _
    rw [hquoted, Value.render, hk]
    dsimp only
    rw [hnormal]
  refine ⟨n, .of_render hrender (fun h => ?_) ?_⟩
  · rw [hk] at h
    cases h
  · rcases hn with hkept | ⟨hnone, hascii⟩
    · have hnot : ¬v.IsRewritten := fun h => h.2 ⟨n, hkept⟩
      rw [or_iff_right hnot]
      refine Numeral.isAscii_iff_of_mem fun c hc => ?_
      rw [hkept, ValueKind.mem_decimalChars_iff hc]
    · exact iff_of_true hascii (.inl ⟨hk, hnone⟩)

/-- Whatever integer or decimal can be made, of a kind that is given or inferred, is written as a
numeral. It is written in the digits `0` to `9`, and has bytes in the code page, exactly if it is a
decimal that is read and written anew or has no digits of other scripts. -/
theorem number_of_make {name raw : String} {kind : Option ValueKind} {metadata : Bool} {v : Value}
    (h : Value.make name raw kind metadata = .ok v) (hk : v.kind = .int ∨ v.kind = .decimal) :
    ∃ n, WrittenNumber v n := by
  have hv := (Value.make_eq_ok_iff.1 h).2
  rcases hk with hk | hk
  · exact exists_writtenNumber_of_int hk hv
  · exact exists_writtenNumber_of_decimal hk hv

/-- A decimal with a comma and an exponent is written in other digits than it is read in. -/
theorem number_of_rewritten_level :
    ∃ v, Value.make "level" " ٣,5e2" (some .decimal) true = .ok v ∧ v.render = "\"350\"" ∧
      ∃ n, WrittenNumber v n := by
  have hmake : Value.make "level" " ٣,5e2" (some .decimal) true =
      .ok { name := "level", raw := " ٣,5e2", kind := .decimal, metadata := true } := rfl
  exact ⟨_, hmake, rfl, number_of_make hmake (.inr rfl)⟩

/-- An integer in other digits is written in them, and has no bytes. -/
theorem number_of_foreign_port :
    ∃ v, Value.make "port" "٣" (some .int) false = .ok v ∧ v.kind = .int ∧ v.render = "٣" ∧
      (∀ n : Numeral, n.IsAscii → v.render ≠ n.text) ∧
      ∀ label bs, encodeText label v.render ≠ .ok bs := by
  have hmake : Value.make "port" "٣" (some .int) false =
      .ok { name := "port", raw := "٣", kind := .int } := rfl
  refine ⟨_, hmake, rfl, rfl, fun n hn heq => ?_, fun label bs => ?_⟩
  · have hchars : ['٣'] = n.chars := by
      rw [← String.toList_ofList (l := n.chars), ← Numeral.text, ← heq]
      rfl
    have hmem : '٣' ∈ n.chars := hchars ▸ List.mem_singleton_self _
    rcases Numeral.mem_chars_of_isAscii hn hmem with h | h | h <;> revert h <;> decide
  · intro h
    cases h

end HomeCatalog
