import HomeCatalog.Decimal.Basic
import HomeCatalog.Text.Blank
import Mathlib.Data.Nat.Digits.Defs
import Mathlib.Tactic.Ring

/-!
# Digits and what they spell

The digits `0` to `9` are digits of one of the scripts that count, with the values one expects
(`digitValue?_of_isDigit`), and none of them is blank. The number that digits spell is found part by
part (`digitsValue_append`), and the digits of a number spell it (`digitsValue_toDigits`).
-/

namespace HomeCatalog

/-! ## A run of characters and what follows it -/

section Run

variable {α : Type} {p : α → Bool} {xs ys : List α}

theorem takeWhile_append_stop (hxs : ∀ a ∈ xs, p a = true) (hys : ∀ a ∈ ys.head?, p a = false) :
    (xs ++ ys).takeWhile p = xs := by
  rw [List.takeWhile_append_of_pos hxs]
  cases ys with
  | nil => exact List.append_nil _
  | cons y ys => rw [List.takeWhile_cons_of_neg (by simp [hys y rfl]), List.append_nil]

theorem dropWhile_append_stop (hxs : ∀ a ∈ xs, p a = true) (hys : ∀ a ∈ ys.head?, p a = false) :
    (xs ++ ys).dropWhile p = ys := by
  rw [List.dropWhile_append_of_pos hxs]
  cases ys with
  | nil => rfl
  | cons y ys => exact List.dropWhile_cons_of_neg (by simp [hys y rfl])

end Run

/-! ## Digits -/

/-- What holds of a run of code points holds of the characters that have them. -/
theorem forall_run {P : Char → Prop} {first count : Nat}
    (h : ∀ k < count, P (Char.ofNat (first + k))) (c : Char) (hfirst : first ≤ c.toNat)
    (hlast : c.toNat < first + count) : P c := by
  have hp := h (c.toNat - first) (by omega)
  rwa [Nat.add_sub_cancel' hfirst, Char.ofNat_toNat] at hp

/-- What holds of ten characters holds of the digits `0` to `9`. -/
theorem forall_isDigit {P : Char → Prop} (h : ∀ k < 10, P (Char.ofNat (48 + k))) (c : Char)
    (hc : c.isDigit = true) : P c := by
  have hrange := Char.isDigit_iff_toNat.1 hc
  simp only [Char.reduceToNat] at hrange
  exact forall_run h c hrange.1 (by omega)

namespace Text

theorem digitValue?_of_isDigit {c : Char} (h : c.isDigit = true) :
    digitValue? c = some (c.toNat - 48) := by
  have hrange : (48 ≤ c.toNat && c.toNat < 48 + 10) = true := by
    have := Char.isDigit_iff_toNat.1 h
    simp only [Char.reduceToNat] at this
    simp only [Bool.and_eq_true, decide_eq_true_eq]
    omega
  have hfirst : digitZeros.find? (fun z => z ≤ c.toNat && c.toNat < z + 10) = some 48 :=
    List.find?_cons_of_pos hrange
  rw [digitValue?, hfirst, Option.map_some]

theorem isDigit_of_isDigit {c : Char} (h : c.isDigit = true) : isDigit c = true := by
  rw [isDigit, digitValue?_of_isDigit h, Option.isSome_some]

theorem isDigit_eq_false {c : Char} (h : isDigit c = false) : c.isDigit = false := by
  by_contra hc
  rw [isDigit_of_isDigit (Bool.eq_true_of_not_eq_false hc)] at h
  cases h

theorem digitValue?_lt {c : Char} {v : Nat} (h : digitValue? c = some v) : v < 10 := by
  obtain ⟨z, hz, rfl⟩ := Option.map_eq_some_iff.1 h
  have hrange := List.find?_some hz
  simp only [Bool.and_eq_true, decide_eq_true_eq] at hrange
  omega

theorem isBlank_of_isDigit {c : Char} (h : c.isDigit = true) : isBlank c = false := by
  have := Char.isDigit_iff_toNat.1 h
  simp only [Char.reduceToNat] at this
  rw [← Bool.not_eq_true, isBlank, Ranges.has_iff]
  simp only [blankRanges, List.mem_cons, List.not_mem_nil, or_false, exists_eq_or_imp,
    exists_eq_left]
  omega

/-- Only blanks are taken away. -/
theorem stripChars_of_forall {cs : List Char} (h : ∀ c ∈ cs, isBlank c = false) :
    stripChars cs = cs := by
  have hstart : cs.dropWhile isBlank = cs := by
    cases cs with
    | nil => rfl
    | cons c cs => exact List.dropWhile_cons_of_neg (by simp [h c List.mem_cons_self])
  have hend : cs.reverse.dropWhile isBlank = cs.reverse := by
    cases hr : cs.reverse with
    | nil => rfl
    | cons c rest =>
      have hc : c ∈ cs := List.mem_reverse.1 (by rw [hr]; exact List.mem_cons_self)
      exact List.dropWhile_cons_of_neg (by simp [h c hc])
  rw [stripChars, hstart, stripEnd, hend, List.reverse_reverse]

end Text

namespace Decimal

/-- Digits after others push these to the left. -/
theorem foldl_digits (n : Nat) (cs : List Char) :
    cs.foldl (fun n c => 10 * n + (Text.digitValue? c).getD 0) n =
      n * 10 ^ cs.length + digitsValue cs := by
  induction cs generalizing n with
  | nil => simp [digitsValue]
  | cons c cs ih =>
    have hc : digitsValue (c :: cs) =
        (10 * 0 + (Text.digitValue? c).getD 0) * 10 ^ cs.length + digitsValue cs := ih _
    rw [List.foldl_cons, ih, hc, List.length_cons]
    ring

theorem digitsValue_append (xs ys : List Char) :
    digitsValue (xs ++ ys) = digitsValue xs * 10 ^ ys.length + digitsValue ys := by
  rw [digitsValue, List.foldl_append, foldl_digits]
  rfl

/-- The digits `0` to `9` spell what the library reads them as. -/
theorem digitsValue_eq_ofDigitChars {cs : List Char} (h : ∀ c ∈ cs, c.isDigit = true) :
    digitsValue cs = Nat.ofDigitChars 10 cs 0 := by
  induction cs with
  | nil => rfl
  | cons c cs ih =>
    have hc : digitsValue (c :: cs) = (c.toNat - 48) * 10 ^ cs.length + digitsValue cs := by
      rw [digitsValue, List.foldl_cons, foldl_digits,
        Text.digitValue?_of_isDigit (h c List.mem_cons_self)]
      simp
    rw [hc, Nat.ofDigitChars_cons, Nat.ofDigitChars_eq_ofDigitChars_zero,
      ih fun c' hc' => h c' (List.mem_cons_of_mem _ hc')]
    simp only [Char.reduceToNat]
    ring

theorem digitsValue_cons (c : Char) (cs : List Char) :
    digitsValue (c :: cs) =
      (Text.digitValue? c).getD 0 * 10 ^ cs.length + digitsValue cs := by
  rw [digitsValue, List.foldl_cons, Nat.mul_zero, Nat.zero_add, foldl_digits]

theorem digitsValue_lt (cs : List Char) : digitsValue cs < 10 ^ cs.length := by
  induction cs with
  | nil => decide
  | cons c cs ih =>
    have hc : (Text.digitValue? c).getD 0 < 10 := by
      cases h : Text.digitValue? c with
      | none => decide
      | some v => exact Text.digitValue?_lt h
    have hscaled := Nat.mul_le_mul_right (10 ^ cs.length) (Nat.le_of_lt_succ hc)
    rw [digitsValue_cons, List.length_cons, Nat.pow_succ]
    omega

/-- As many digits that spell the same number are the same digits. -/
theorem eq_of_digitsValue_eq {xs ys : List Char} (hxs : ∀ c ∈ xs, c.isDigit = true)
    (hys : ∀ c ∈ ys, c.isDigit = true) (hlength : xs.length = ys.length)
    (h : digitsValue xs = digitsValue ys) : xs = ys := by
  induction xs generalizing ys with
  | nil => exact (List.eq_nil_of_length_eq_zero hlength.symm).symm
  | cons x xs ih =>
    obtain ⟨y, ys, rfl⟩ := List.exists_cons_of_length_eq_add_one hlength.symm
    have hlength : xs.length = ys.length := Nat.succ.inj hlength
    obtain ⟨hx, hxs⟩ := List.forall_mem_cons.1 hxs
    obtain ⟨hy, hys⟩ := List.forall_mem_cons.1 hys
    rw [digitsValue_cons, digitsValue_cons, Text.digitValue?_of_isDigit hx,
      Text.digitValue?_of_isDigit hy, Option.getD_some, Option.getD_some, hlength] at h
    have hxlt := digitsValue_lt xs
    have hylt := digitsValue_lt ys
    rw [hlength] at hxlt
    have hfirst : x.toNat - 48 = y.toNat - 48 := by
      have hdiv := congrArg (· / 10 ^ ys.length) h
      simpa [Nat.mul_comm, Nat.mul_add_div, Nat.div_eq_of_lt hxlt, Nat.div_eq_of_lt hylt] using hdiv
    have hrest : digitsValue xs = digitsValue ys := by
      rw [hfirst] at h
      exact Nat.add_left_cancel h
    have hxrange := Char.isDigit_iff_toNat.1 hx
    have hyrange := Char.isDigit_iff_toNat.1 hy
    simp only [Char.reduceToNat] at hxrange hyrange
    have hchar : x = y := Char.toNat_inj.1 (by omega)
    rw [hchar, ih hxs hys hlength hrest]

theorem isDigit_of_mem_toDigits {n : Nat} : ∀ c ∈ Nat.toDigits 10 n, c.isDigit = true :=
  fun _ hc => Nat.isDigit_of_mem_toDigits (by decide) (by decide) hc

@[simp] theorem digitsValue_toDigits (n : Nat) : digitsValue (Nat.toDigits 10 n) = n := by
  rw [digitsValue_eq_ofDigitChars isDigit_of_mem_toDigits, Nat.ofDigitChars_ten_toDigits]

theorem isDigit_of_mem_replicate_zero {k : Nat} :
    ∀ c ∈ List.replicate k '0', c.isDigit = true := by
  intro c hc
  rw [List.eq_of_mem_replicate hc]
  rfl

@[simp] theorem digitsValue_replicate_zero (k : Nat) :
    digitsValue (List.replicate k '0') = 0 := by
  rw [digitsValue_eq_ofDigitChars isDigit_of_mem_replicate_zero, Nat.ofDigitChars_replicate_zero,
    Nat.mul_zero]

theorem length_toDigits_le {ds : List Char} (hne : ds ≠ []) :
    (Nat.toDigits 10 (digitsValue ds)).length ≤ ds.length :=
  Nat.toDigits_length 10 _ _ (List.length_pos_iff.2 hne) (digitsValue_lt ds)

/-- Digits are those of the number that they spell, after as many zeros as it takes. -/
theorem replicate_append_toDigits {ds : List Char} (hne : ds ≠ [])
    (hds : ∀ c ∈ ds, c.isDigit = true) :
    List.replicate (ds.length - (Nat.toDigits 10 (digitsValue ds)).length) '0' ++
      Nat.toDigits 10 (digitsValue ds) = ds := by
  have hle := length_toDigits_le hne
  refine eq_of_digitsValue_eq ?_ hds ?_ ?_
  · exact List.forall_mem_append.2 ⟨isDigit_of_mem_replicate_zero, isDigit_of_mem_toDigits⟩
  · rw [List.length_append, List.length_replicate, Nat.sub_add_cancel hle]
  · rw [digitsValue_append, digitsValue_replicate_zero, digitsValue_toDigits, Nat.zero_mul,
      Nat.zero_add]

/-- It takes no zeros if there are none in front. -/
theorem toDigits_digitsValue {ds : List Char} (hne : ds ≠ [])
    (hds : ∀ c ∈ ds, c.isDigit = true) (hhead : ds.head? ≠ some '0') :
    Nat.toDigits 10 (digitsValue ds) = ds := by
  have hpadded := replicate_append_toDigits hne hds
  cases hk : ds.length - (Nat.toDigits 10 (digitsValue ds)).length with
  | zero => rwa [hk, List.replicate_zero, List.nil_append] at hpadded
  | succ k =>
    rw [hk, List.replicate_succ, List.cons_append] at hpadded
    exact absurd (by rw [← hpadded]; rfl) hhead

end Decimal

end HomeCatalog
