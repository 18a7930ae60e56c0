import HomeCatalog.Proofs.Decimal.Numeral
import HomeCatalog.Proofs.Text.LetterCase

/-!
# Texts on one line

A text on one line holds neither a carriage return nor a line feed (`OneLine`). Nothing that is done
to a text on its way into a stream gives it a line end: blanks are taken away at its ends
(`OneLine.strip`), its letters change their case (`OneLine.lower`, `OneLine.upper`), or a decimal is
written in its normal form (`oneLine_normalized`).

All entries of the case tables lead to characters after the control characters, so no letter becomes
a line end.
-/

namespace HomeCatalog

namespace Text

/-- A carriage return or a line feed. -/
def isBreak (c : Char) : Bool :=
  c == '\r' || c == '\n'

/-- A text without line ends. -/
def OneLine (s : String) : Prop :=
  ∀ c ∈ s.toList, isBreak c = false

instance (s : String) : Decidable (OneLine s) :=
  List.decidableBAll (fun c => isBreak c = false) s.toList

theorem isBreak_eq_false_iff {c : Char} : isBreak c = false ↔ c ≠ '\r' ∧ c ≠ '\n' := by
  simp [isBreak]

theorem isBreak_of_toNat {c : Char} (h : c.toNat ≠ 13 ∧ c.toNat ≠ 10) : isBreak c = false := by
  rw [isBreak_eq_false_iff]
  constructor
  · rintro rfl
    exact h.1 rfl
  · rintro rfl
    exact h.2 rfl

/-- A code point after the line ends is no line end, whether or not it is that of a character. -/
theorem isBreak_ofNat {n : Nat} (h : 13 < n) : isBreak (Char.ofNat n) = false := by
  apply isBreak_of_toNat
  rcases toNat_ofNat n with hchar | hchar
  · omega
  · omega

theorem isBreak_of_isDigit {c : Char} (h : isDigit c = true) : isBreak c = false := by
  rw [isBreak_eq_false_iff]
  constructor
  · rintro rfl
    exact absurd h (by decide)
  · rintro rfl
    exact absurd h (by decide)

@[simp] theorem oneLine_empty : OneLine "" := by
  decide

@[simp] theorem oneLine_append {s t : String} : OneLine (s ++ t) ↔ OneLine s ∧ OneLine t := by
  simp only [OneLine, String.toList_append, List.mem_append, or_imp, forall_and]

theorem oneLine_intercalate {separator : String} (hseparator : OneLine separator)
    {parts : List String} (h : ∀ s ∈ parts, OneLine s) :
    OneLine (separator.intercalate parts) := by
  induction parts with
  | nil => exact oneLine_empty
  | cons a parts ih =>
    obtain ⟨ha, hparts⟩ := List.forall_mem_cons.1 h
    cases parts with
    | nil => simpa using ha
    | cons b parts =>
      rw [String.intercalate_cons_cons, oneLine_append, oneLine_append]
      exact ⟨⟨ha, hseparator⟩, ih hparts⟩

theorem OneLine.ofList {s : String} (h : OneLine s) {cs : List Char} (hcs : cs ⊆ s.toList) :
    OneLine (String.ofList cs) := by
  intro c hc
  rw [String.toList_ofList] at hc
  exact h c (hcs hc)

theorem stripChars_subset (cs : List Char) : stripChars cs ⊆ cs := by
  intro c hc
  rw [stripChars, stripEnd, List.mem_reverse] at hc
  have hmem := List.mem_reverse.1 ((List.dropWhile_sublist isBlank).mem hc)
  exact (List.dropWhile_sublist isBlank).mem hmem

theorem OneLine.strip {s : String} (h : OneLine s) : OneLine (Text.strip s) :=
  h.ofList (stripChars_subset s.toList)

/-! ## Letter case -/

/-- Every run of a case table leads behind the line ends. -/
theorem lt_of_runTarget? {runs : List CaseRun} (hruns : ∀ r ∈ runs, (13 : Int) < r.1 + r.2.2.2)
    {n m : Nat} (h : runTarget? runs n = some m) : 13 < m := by
  obtain ⟨r, hr, rfl⟩ := Option.map_eq_some_iff.1 h
  have hfirst : r.1 ≤ n := by
    have hfound := List.find?_some hr
    simp only [Bool.and_eq_true, decide_eq_true_eq] at hfound
    exact hfound.1.1
  have hrun := hruns r (List.mem_of_find?_eq_some hr)
  omega

theorem lowerRuns_lt : ∀ r ∈ lowerRuns, (13 : Int) < r.1 + r.2.2.2 := by
  decide +kernel

theorem upperRuns_lt : ∀ r ∈ upperRuns, (13 : Int) < r.1 + r.2.2.2 := by
  decide +kernel

theorem upperExpansions_lt : ∀ e ∈ upperExpansions, ∀ n ∈ e.2, 13 < n := by
  decide +kernel

theorem isBreak_lowerChar {c : Char} (h : isBreak c = false) : isBreak (lowerChar c) = false := by
  unfold lowerChar
  split
  · decide
  · split
    · next hn => exact isBreak_ofNat (lt_of_runTarget? lowerRuns_lt hn)
    · exact h

theorem isBreak_of_mem_lowerFull {c : Char} (h : isBreak c = false) :
    ∀ x ∈ lowerFull c, isBreak x = false := by
  intro x hx
  unfold lowerFull at hx
  split at hx
  · rcases List.mem_cons.1 hx with rfl | hx
    · decide
    · rw [List.mem_singleton.1 hx]
      exact isBreak_ofNat (by omega)
  · rw [List.mem_singleton.1 hx]
    exact isBreak_lowerChar h

theorem isBreak_of_mem_lowerAfter {before cs : List Char} (h : ∀ c ∈ cs, isBreak c = false) :
    ∀ x ∈ lowerAfter before cs, isBreak x = false := by
  induction cs generalizing before with
  | nil => simp [lowerAfter]
  | cons c cs ih =>
    obtain ⟨hc, hcs⟩ := List.forall_mem_cons.1 h
    intro x hx
    rw [lowerAfter, List.mem_append] at hx
    rcases hx with hx | hx
    · split at hx
      · rw [List.mem_singleton.1 hx]
        split <;> exact isBreak_ofNat (by omega)
      · exact isBreak_of_mem_lowerFull hc x hx
    · exact ih hcs x hx

theorem OneLine.lower {s : String} (h : OneLine s) : OneLine (Text.lower s) := by
  intro x hx
  rw [Text.lower, String.toList_ofList] at hx
  exact isBreak_of_mem_lowerAfter h x hx

theorem isBreak_of_mem_upperFull {c : Char} (h : isBreak c = false) :
    ∀ x ∈ upperFull c, isBreak x = false := by
  intro x hx
  unfold upperFull at hx
  split at hx
  · next ns hns =>
    obtain ⟨n, hn, rfl⟩ := List.mem_map.1 hx
    obtain ⟨before, after, hsplit, -⟩ := List.lookup_eq_some_iff.1 hns
    have hmem : (c.toNat, ns) ∈ upperExpansions := by simp [hsplit]
    exact isBreak_ofNat (upperExpansions_lt _ hmem n hn)
  · split at hx
    · next hn =>
      rw [List.mem_singleton.1 hx]
      exact isBreak_ofNat (lt_of_runTarget? upperRuns_lt hn)
    · rw [List.mem_singleton.1 hx]
      exact h

theorem OneLine.upper {s : String} (h : OneLine s) : OneLine (Text.upper s) := by
  intro x hx
  rw [Text.upper, String.toList_ofList, List.mem_flatMap] at hx
  obtain ⟨c, hc, hx⟩ := hx
  exact isBreak_of_mem_upperFull (h c hc) x hx

end Text

/-! ## Decimals -/

/-- The normal form of a decimal is a numeral, or the text itself with a point for the comma. -/
theorem oneLine_normalized {raw s : String} (hraw : Text.OneLine raw)
    (h : normalizeDecimal raw = .ok s) : Text.OneLine s := by
  unfold normalizeDecimal at h
  dsimp only at h
  split at h
  · cases h
    intro c hc
    rw [String.toList_ofList] at hc
    obtain ⟨x, hx, rfl⟩ := List.mem_map.1 hc
    unfold pointForComma
    split
    · decide
    · exact hraw x (Text.stripChars_subset _ hx)
  · split at h
    · cases h
    · next d hd =>
      cases h
      obtain ⟨n, hascii, hchars, -⟩ := d.exists_numeral
      intro c hc
      rw [Decimal.fixed, String.toList_ofList, hchars] at hc
      rcases Numeral.mem_chars_of_isAscii hascii hc with rfl | rfl | hdigit
      · decide
      · decide
      · exact Text.isBreak_of_isDigit (Text.isDigit_of_isDigit hdigit)
    · cases h

end HomeCatalog
