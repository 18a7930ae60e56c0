import HomeCatalog.Proofs.Decimal.Digits
import HomeCatalog.Text.CodePage

/-!
# What the code page holds

The table of bytes and that of characters are one (`codePageByte?_eq_some_iff`), so encoding and
decoding undo each other (`encodeCodePage_eq_ok_iff`). A text has bytes exactly if each of its
characters has one (`exists_encodeCodePage_iff`). Otherwise the fault is the first stretch of
characters without bytes, as long as it can be (`encodeCodePage_of_isFirstStretch`). The characters
of ASCII have bytes, and of the digits of all scripts no others have (`codePageByte?_of_isDigit`).
-/

namespace HomeCatalog.Text

/-! ## Bytes and characters -/

theorem codePageChar?_of_codePageByte? {c : Char} {b : UInt8} (h : codePageByte? c = some b) :
    codePageChar? b = some c := by
  rw [codePageByte?] at h
  split at h
  · next hplain =>
    obtain rfl : UInt8.ofNat c.toNat = b := Option.some.inj h
    simp only [Bool.or_eq_true, Bool.and_eq_true, decide_eq_true_eq] at hplain
    have hbyte : (UInt8.ofNat c.toNat).toNat = c.toNat := by
      rw [UInt8.toNat_ofNat']
      omega
    rw [codePageChar?, hbyte, if_pos (by simp; omega), Char.ofNat_toNat]
  · obtain ⟨e, he, rfl⟩ := Option.map_eq_some_iff.1 h
    have hchar : e.2 = c.toNat := by simpa using List.find?_some he
    have hextra : ∀ e ∈ codePageExtras,
        codePageChar? (UInt8.ofNat e.1) = some (Char.ofNat e.2) := by decide
    rw [hextra e (List.mem_of_find?_eq_some he), hchar, Char.ofNat_toNat]

theorem codePageByte?_of_codePageChar? {c : Char} {b : UInt8} (h : codePageChar? b = some c) :
    codePageByte? c = some b := by
  rw [codePageChar?] at h
  split at h
  · next hplain =>
    obtain rfl : Char.ofNat b.toNat = c := Option.some.inj h
    simp only [Bool.or_eq_true, decide_eq_true_eq] at hplain
    have hbyte : b.toNat < 256 := b.toNat_lt
    have hvalid : b.toNat.isValidChar := .inl (by omega)
    have hchar : (Char.ofNat b.toNat).toNat = b.toNat := by
      rw [Char.ofNat, dif_pos hvalid]
      rfl
    rw [codePageByte?, hchar, if_pos (by simp; omega), UInt8.ofNat_toNat]
  · obtain ⟨n, hn, rfl⟩ := Option.map_eq_some_iff.1 h
    obtain ⟨es, fs, hextras, -⟩ := List.lookup_eq_some_iff.1 hn
    have hmem : (b.toNat, n) ∈ codePageExtras := by
      rw [hextras]
      exact List.mem_append_right _ List.mem_cons_self
    have hextra : ∀ e ∈ codePageExtras,
        codePageByte? (Char.ofNat e.2) = some (UInt8.ofNat e.1) := by decide
    rw [hextra _ hmem, UInt8.ofNat_toNat]

/-- The bytes and the characters are paired off. -/
theorem codePageByte?_eq_some_iff {c : Char} {b : UInt8} :
    codePageByte? c = some b ↔ codePageChar? b = some c :=
  ⟨codePageChar?_of_codePageByte?, codePageByte?_of_codePageChar?⟩

/-- Some byte stands for the character. -/
def InCodePage (c : Char) : Prop :=
  ∃ b, codePageChar? b = some c

theorem inCodePage_iff {c : Char} : InCodePage c ↔ (codePageByte? c).isSome = true := by
  simp only [InCodePage, ← codePageByte?_eq_some_iff, Option.isSome_iff_exists]

theorem not_inCodePage_iff {c : Char} : ¬InCodePage c ↔ codePageByte? c = none := by
  rw [inCodePage_iff, Option.not_isSome_iff_eq_none]

instance : DecidablePred InCodePage := fun _ => decidable_of_iff _ inCodePage_iff.symm

/-! ## Texts -/

theorem exists_encodeCodePage_iff {offset : Nat} {cs : List Char} :
    (∃ bs, encodeCodePage offset cs = .ok bs) ↔ ∀ c ∈ cs, (codePageByte? c).isSome = true := by
  induction cs generalizing offset with
  | nil => exact iff_of_true ⟨[], rfl⟩ (List.forall_mem_nil _)
  | cons c cs ih =>
    have hrest : (∃ bs, encodeCodePage (offset + 1) cs = .ok bs) ↔
        ∀ c ∈ cs, (codePageByte? c).isSome = true := ih
    rw [List.forall_mem_cons, ← hrest, encodeCodePage]
    cases codePageByte? c with
    | none => simp
    | some b => cases encodeCodePage (offset + 1) cs <;> simp

section Texts

variable {offset : Nat} {c : Char} {cs : List Char} {b : UInt8} {bs : List UInt8}

theorem encodeCodePage_cons_eq_ok_iff :
    encodeCodePage offset (c :: cs) = .ok (b :: bs) ↔
      codePageByte? c = some b ∧ encodeCodePage (offset + 1) cs = .ok bs := by
  rw [encodeCodePage]
  cases codePageByte? c with
  | none => simp
  | some b' => cases encodeCodePage (offset + 1) cs <;> simp

theorem decodeCodePage_cons_eq_some_iff :
    decodeCodePage (b :: bs) = some (c :: cs) ↔
      codePageChar? b = some c ∧ decodeCodePage bs = some cs := by
  rw [decodeCodePage, decodeCodePage, List.mapM_cons]
  cases codePageChar? b with
  | none => simp
  | some c' => cases bs.mapM codePageChar? <;> simp

/-- Encoding and decoding undo each other. -/
theorem encodeCodePage_eq_ok_iff :
    encodeCodePage offset cs = .ok bs ↔ decodeCodePage bs = some cs := by
  induction bs generalizing offset cs with
  | nil =>
    cases cs with
    | nil => exact iff_of_true rfl rfl
    | cons c cs =>
      refine iff_of_false ?_ nofun
      rw [encodeCodePage]
      cases codePageByte? c with
      | none => exact nofun
      | some b => cases encodeCodePage (offset + 1) cs <;> exact nofun
  | cons b bs ih =>
    cases cs with
    | nil =>
      refine iff_of_false nofun ?_
      rw [decodeCodePage, List.mapM_cons]
      cases codePageChar? b with
      | none => exact nofun
      | some c => cases bs.mapM codePageChar? <;> exact nofun
    | cons c cs =>
      rw [encodeCodePage_cons_eq_ok_iff, decodeCodePage_cons_eq_some_iff,
        codePageByte?_eq_some_iff, ih]

theorem length_of_decodeCodePage (h : decodeCodePage bs = some cs) : bs.length = cs.length := by
  induction bs generalizing cs with
  | nil =>
    cases h
    rfl
  | cons b bs ih =>
    cases cs with
    | nil =>
      have hencode : encodeCodePage 0 [] = .ok (b :: bs) := encodeCodePage_eq_ok_iff.2 h
      cases hencode
    | cons c cs =>
      rw [List.length_cons, ih (decodeCodePage_cons_eq_some_iff.1 h).2, List.length_cons]

/-- The text falls into characters with bytes, characters without, and a rest that goes on with a
byte if there is any: the second part is the first stretch without bytes, as long as it can be. -/
structure IsFirstStretch (before run after : List Char) : Prop where
  encodable_before : ∀ c ∈ before, InCodePage c
  run_ne_nil : run ≠ []
  unencodable : ∀ c ∈ run, ¬InCodePage c
  encodable_after : ∀ c ∈ after.head?, InCodePage c

theorem encodeCodePage_of_isFirstStretch {before run after : List Char}
    (h : IsFirstStretch before run after) :
    encodeCodePage offset (before ++ (run ++ after)) =
      .error ⟨offset + before.length, run⟩ := by
  induction before generalizing offset with
  | nil =>
    cases run with
    | nil => exact absurd rfl h.run_ne_nil
    | cons c run =>
      obtain ⟨hc, hrun⟩ := List.forall_mem_cons.1 h.unencodable
      have hstretch : (run ++ after).takeWhile (fun d => (codePageByte? d).isNone) = run :=
        takeWhile_append_stop (fun d hd => by rw [not_inCodePage_iff.1 (hrun d hd)]; rfl)
          fun d hd => by
            rw [Option.isNone_eq_false_iff]
            exact inCodePage_iff.1 (h.encodable_after d hd)
      rw [List.nil_append, List.cons_append, encodeCodePage, not_inCodePage_iff.1 hc]
      dsimp only
      rw [hstretch]
      rfl
  | cons c before ih =>
    obtain ⟨hc, hbefore⟩ := List.forall_mem_cons.1 h.encodable_before
    obtain ⟨b, hb⟩ := Option.isSome_iff_exists.1 (inCodePage_iff.1 hc)
    rw [List.cons_append, encodeCodePage, hb]
    dsimp only
    rw [ih { h with encodable_before := hbefore }, List.length_cons, Nat.add_right_comm]
    rfl

theorem exists_isFirstStretch (h : ∃ c ∈ cs, ¬InCodePage c) :
    ∃ before run after, cs = before ++ (run ++ after) ∧ IsFirstStretch before run after := by
  induction cs with
  | nil => simp at h
  | cons c cs ih =>
    by_cases hc : InCodePage c
    · obtain ⟨before, run, after, rfl, hstretch⟩ := ih (by simpa [hc] using h)
      exact ⟨c :: before, run, after, rfl, { hstretch with
        encodable_before := List.forall_mem_cons.2 ⟨hc, hstretch.encodable_before⟩ }⟩
    · refine ⟨[], c :: cs.takeWhile fun d => decide ¬InCodePage d,
        cs.dropWhile fun d => decide ¬InCodePage d, ?_, nofun, nofun, ?_, ?_⟩
      · rw [List.nil_append, List.cons_append, List.takeWhile_append_dropWhile]
      · refine List.forall_mem_cons.2 ⟨hc, fun d hd => ?_⟩
        exact of_decide_eq_true (List.all_eq_true.1 List.all_takeWhile d hd)
      · intro d hd
        have hstop := List.head?_dropWhile_not (fun d => decide ¬InCodePage d) cs
        rw [Option.mem_def.1 hd] at hstop
        exact not_not.1 (of_decide_eq_false hstop)

end Texts

/-! ## Digits -/

/-- What holds of ten characters of each script holds of every digit. -/
theorem forall_digit {P : Char → Prop}
    (h : ∀ z ∈ digitZeros, ∀ k < 10, P (Char.ofNat (z + k))) (c : Char) (hc : isDigit c = true) :
    P c := by
  obtain ⟨v, hv⟩ := Option.isSome_iff_exists.1 hc
  obtain ⟨z, hz, -⟩ := Option.map_eq_some_iff.1 hv
  have hrange := List.find?_some hz
  simp only [Bool.and_eq_true, decide_eq_true_eq] at hrange
  exact forall_run (h z (List.mem_of_find?_eq_some hz)) c hrange.1 hrange.2

theorem codePageByte?_of_isDigit {c : Char} (h : isDigit c = true) :
    (codePageByte? c).isSome = true ↔ c.isDigit = true := by
  refine forall_digit (P := fun c => (codePageByte? c).isSome = true ↔ c.isDigit = true) ?_ c h
  decide +kernel

end HomeCatalog.Text
