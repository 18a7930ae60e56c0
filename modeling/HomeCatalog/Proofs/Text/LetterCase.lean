import HomeCatalog.Text.Casing

/-!
# Words in letters of either case

A text in lower case is a given word exactly if the text is that word in letters of either case
(`lower_eq_iff`). So it is with every word in the letters `a` to `z` but two: an `i` comes of the
capital with a dot as well, and a `k` of the Kelvin sign.
-/

namespace HomeCatalog.Text

/-- A small letter that comes of its capital and itself only. -/
def IsPlainLetter (x : Char) : Prop :=
  (0x61 ≤ x.toNat ∧ x.toNat ≤ 0x7A) ∧ x ≠ 'i' ∧ x ≠ 'k'

instance (x : Char) : Decidable (IsPlainLetter x) :=
  inferInstanceAs (Decidable (_ ∧ _))

/-- The text is the word in letters of either case. -/
def IsCaseVariant (word raw : String) : Prop :=
  raw.toList.map Char.toLower = word.toList

instance (word raw : String) : Decidable (IsCaseVariant word raw) :=
  inferInstanceAs (Decidable (_ = _))

/-! ## The ASCII characters -/

/-- What holds of 128 characters holds of all of ASCII. -/
theorem forall_ascii {P : Char → Prop} (h : ∀ n < 0x80, P (Char.ofNat n)) (c : Char)
    (hc : c.toNat < 0x80) : P c := by
  have hp := h c.toNat hc
  rwa [Char.ofNat_toNat] at hp

theorem lowerFull_of_lt {c : Char} (h : c.toNat < 0x80) :
    c.toNat ≠ 0x3A3 ∧ lowerFull c = [c.toLower] := by
  refine ⟨by omega, forall_ascii (P := fun c => lowerFull c = [c.toLower]) ?_ c h⟩
  decide +kernel

/-! ## The other characters -/

/-- Only the capitals of ASCII and the Kelvin sign have a counterpart in ASCII. -/
theorem lowerRuns_target :
    ∀ r ∈ lowerRuns, r.2.1 < 0x80 ∨ (0x7A : Int) < r.1 + r.2.2.2 ∨
      (r.1 = 0x212A ∧ r.2.1 = 0x212A ∧ r.2.2.2 = -0x20BF) := by
  decide +kernel

theorem target_of_lowerRuns {n m : Nat} (hn : 0x80 ≤ n) (h : runTarget? lowerRuns n = some m) :
    0x7A < m ∨ m = 0x6B := by
  obtain ⟨r, hr, rfl⟩ := Option.map_eq_some_iff.1 h
  have hrange := List.find?_some hr
  simp only [Bool.and_eq_true, decide_eq_true_eq] at hrange
  have hrun := lowerRuns_target r (List.mem_of_find?_eq_some hr)
  omega

theorem toNat_ofNat (n : Nat) : (Char.ofNat n).toNat = n ∨ (Char.ofNat n).toNat = 0 := by
  by_cases hn : n.isValidChar
  · left
    have hchar : Char.ofNat n = Char.ofNatAux n hn := dif_pos hn
    rw [hchar]
    rfl
  · right
    have hchar : Char.ofNat n = '\x00' := dif_neg hn
    rw [hchar]
    rfl

/-- Lower case of a character, a sigma at either place included, does not begin in a plain letter.
-/
theorem exists_head_of_le {c : Char} (hc : 0x80 ≤ c.toNat) (final : Bool) :
    ∃ y ys, (if c.toNat = 0x3A3 then [Char.ofNat (if final then 0x3C2 else 0x3C3)]
      else lowerFull c) = y :: ys ∧ ¬IsPlainLetter y := by
  split
  · refine ⟨_, _, rfl, ?_⟩
    cases final <;> decide
  unfold lowerFull
  split
  · exact ⟨_, _, rfl, by decide⟩
  next hdot =>
  refine ⟨_, _, rfl, ?_⟩
  unfold lowerChar
  rw [if_neg hdot]
  rintro ⟨hrange, -, hk⟩
  split at hrange
  · next n hn =>
    rw [hn] at hk
    rcases target_of_lowerRuns hc hn with hlt | rfl
    · have hchar := toNat_ofNat n
      omega
    · exact hk rfl
  · omega

theorem toLower_of_le {c : Char} (h : 0x80 ≤ c.toNat) : c.toLower = c := by
  unfold Char.toLower
  split
  · next hrange =>
    have hlast : c.toNat ≤ 0x5A := hrange.2
    omega
  · rfl

/-! ## Texts -/

theorem lowerAfter_eq_iff {word : List Char} (hword : ∀ x ∈ word, IsPlainLetter x)
    (before cs : List Char) : lowerAfter before cs = word ↔ cs.map Char.toLower = word := by
  induction cs generalizing before word with
  | nil => rfl
  | cons c cs ih =>
    rw [lowerAfter, List.map_cons]
    by_cases hc : c.toNat < 0x80
    · obtain ⟨hsigma, hlower⟩ := lowerFull_of_lt hc
      rw [if_neg hsigma, hlower, List.singleton_append]
      cases word with
      | nil => simp
      | cons x word =>
        rw [List.cons.injEq, List.cons.injEq, ih fun y hy => hword y (List.mem_cons_of_mem _ hy)]
    · -- Neither in lower case nor as a letter does the character begin the word.
      have hc : 0x80 ≤ c.toNat := Nat.le_of_not_lt hc
      obtain ⟨y, ys, hhead, hy⟩ := exists_head_of_le hc (meetsCased before && !meetsCased cs)
      rw [hhead, toLower_of_le hc]
      constructor
      · rintro rfl
        exact absurd (hword y List.mem_cons_self) hy
      · rintro rfl
        have hrange := (hword c List.mem_cons_self).1
        omega

theorem lower_eq_iff {word raw : String} (hword : ∀ x ∈ word.toList, IsPlainLetter x) :
    lower raw = word ↔ IsCaseVariant word raw := by
  rw [IsCaseVariant, ← lowerAfter_eq_iff hword [], ← String.toList_inj, lower, String.toList_ofList]

end HomeCatalog.Text
