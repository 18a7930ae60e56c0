import Mathlib.Data.List.Perm.Basic
import Mathlib.Order.Lattice

/-!
# Sorting by a key

A list is sorted by a key, and elements with one key keep the order they had
(`filter_key_mergeSort`). That determines the sorted list: in two lists that are sorted by a key and
have the same elements in the same order for each key, the first elements are the same
(`eq_of_filter_key_eq`). So the elements of one key matter only among each other, wherever they
stand among the others (`mergeSort_congr_of_filter_key_eq`), and an element that is exchanged for
another of its key leaves its place to it (`exists_mergeSort_eq`).
-/

namespace HomeCatalog

universe u v

variable {α : Type u} {κ : Type v} [LinearOrder κ] {key : α → κ}

/-- Two lists sorted by a key are the same if they have the same elements in order for each key. -/
theorem eq_of_filter_key_eq {xs ys : List α} (hxs : xs.Pairwise fun a b => key a ≤ key b)
    (hys : ys.Pairwise fun a b => key a ≤ key b)
    (h : ∀ k, xs.filter (fun a => decide (key a = k)) = ys.filter fun a => decide (key a = k)) :
    xs = ys := by
  induction xs generalizing ys with
  | nil =>
    cases ys with
    | nil => rfl
    | cons y ys => simpa using h (key y)
  | cons x xs ih =>
    cases ys with
    | nil => simpa using h (key x)
    | cons y ys =>
      obtain ⟨hx, htail⟩ := List.pairwise_cons.1 hxs
      obtain ⟨hy, htail'⟩ := List.pairwise_cons.1 hys
      -- Each head is in the other list, so neither key is below the other.
      have hmem : ∀ z, z ∈ x :: xs ↔ z ∈ y :: ys := by
        intro z
        simpa using congrArg (z ∈ ·) (h (key z))
      have hle : key x ≤ key y := by
        rcases List.mem_cons.1 ((hmem y).2 List.mem_cons_self) with heq | hin
        · rw [heq]
        · exact hx y hin
      have hge : key y ≤ key x := by
        rcases List.mem_cons.1 ((hmem x).1 List.mem_cons_self) with heq | hin
        · rw [heq]
        · exact hy x hin
      have hkey : key y = key x := le_antisymm hge hle
      have hhead : x = y := by
        have hk := h (key x)
        rw [List.filter_cons_of_pos (by simp), List.filter_cons_of_pos (by simp [hkey])] at hk
        exact (List.cons.inj hk).1
      subst hhead
      refine congrArg (x :: ·) (ih htail htail' fun k => ?_)
      have hk := h k
      rw [List.filter_cons, List.filter_cons] at hk
      split at hk
      · exact (List.cons.inj hk).2
      · exact hk

section MergeSort

variable {le : α → α → Bool} (hle : ∀ a b, le a b = true ↔ key a ≤ key b)

include hle

theorem trans_of_key (a b c : α) (hab : le a b = true) (hbc : le b c = true) : le a c = true :=
  (hle a c).2 (le_trans ((hle a b).1 hab) ((hle b c).1 hbc))

theorem total_of_key (a b : α) : (le a b || le b a) = true := by
  rw [Bool.or_eq_true, hle, hle]
  exact le_total (key a) (key b)

theorem pairwise_key_mergeSort (xs : List α) :
    (xs.mergeSort le).Pairwise fun a b => key a ≤ key b :=
  (List.pairwise_mergeSort (trans_of_key hle) (total_of_key hle) xs).imp fun h => (hle _ _).1 h

/-- Elements with one key keep their order. -/
theorem filter_key_mergeSort (k : κ) (xs : List α) :
    (xs.mergeSort le).filter (fun a => decide (key a = k)) =
      xs.filter fun a => decide (key a = k) := by
  have hsorted : (xs.filter fun a => decide (key a = k)).Pairwise fun a b => le a b = true := by
    refine List.pairwise_of_forall_mem_list fun a ha b hb => (hle a b).2 (le_of_eq ?_)
    rw [of_decide_eq_true (List.mem_filter.1 ha).2, of_decide_eq_true (List.mem_filter.1 hb).2]
  -- They are sorted as they stand, so they are found in that order; and no more are found.
  have hsub := List.sublist_mergeSort (trans_of_key hle) (total_of_key hle) hsorted
    List.filter_sublist
  have hfilter := hsub.filter fun a => decide (key a = k)
  rw [List.filter_filter] at hfilter
  simp only [Bool.and_self] at hfilter
  exact (hfilter.eq_of_length (((List.mergeSort_perm xs le).filter _).length_eq).symm).symm

/-- What a list is sorted to depends on its elements of each key. -/
theorem mergeSort_congr_of_filter_key_eq {xs ys : List α}
    (h : ∀ k, xs.filter (fun a => decide (key a = k)) = ys.filter fun a => decide (key a = k)) :
    xs.mergeSort le = ys.mergeSort le := by
  refine eq_of_filter_key_eq (pairwise_key_mergeSort hle xs) (pairwise_key_mergeSort hle ys)
    fun k => ?_
  rw [filter_key_mergeSort hle, filter_key_mergeSort hle, h]

/-- Where an element comes to stand, and what comes before and behind it, is decided by its key: it
is the same for all elements of one key. -/
theorem exists_mergeSort_eq {ι : Type*} {a : ι → α} (hkey : ∀ i j, key (a i) = key (a j))
    (xs ys : List α) : ∃ us vs, ∀ i, (xs ++ a i :: ys).mergeSort le = us ++ a i :: vs := by
  rcases isEmpty_or_nonempty ι with hι | ⟨⟨j⟩⟩
  · exact ⟨[], [], fun i => isEmptyElim i⟩
  -- `none` marks the place of the element. The marked list is sorted with one of the elements in
  -- mind, which comes to the same for the others.
  have hsame : ∀ (i : ι) (x : Option α), key (x.getD (a i)) = key (x.getD (a j)) := by
    rintro i (_ | x)
    · exact hkey i j
    · rfl
  let marked := (xs.map some ++ none :: ys.map some).mergeSort
    fun x y => le (x.getD (a j)) (y.getD (a j))
  have hmarked : ∀ i, marked.map (·.getD (a i)) = (xs ++ a i :: ys).mergeSort le := by
    intro i
    have hlist : (xs.map some ++ none :: ys.map some).map (·.getD (a i)) = xs ++ a i :: ys := by
      simp [Function.comp_def]
    rw [← hlist]
    refine List.map_mergeSort fun x _ y _ => ?_
    rw [Bool.eq_iff_iff, hle, hle, hsame i x, hsame i y]
  have hnone : none ∈ marked := by
    rw [List.mem_mergeSort]
    simp
  obtain ⟨us, vs, hsplit⟩ := List.append_of_mem hnone
  have hrest : (us ++ vs).Perm (xs.map some ++ ys.map some) := by
    refine List.Perm.cons_inv (a := none) ?_
    refine List.perm_middle.symm.trans (.trans ?_ List.perm_middle)
    exact hsplit ▸ List.mergeSort_perm _ _
  refine ⟨us.map (·.getD (a j)), vs.map (·.getD (a j)), fun i => ?_⟩
  have hfill : ∀ x ∈ us ++ vs, x.getD (a i) = x.getD (a j) := by
    intro x hx
    rw [hrest.mem_iff, ← List.map_append] at hx
    obtain ⟨y, -, rfl⟩ := List.mem_map.1 hx
    rfl
  rw [← hmarked i, hsplit, List.map_append, List.map_cons,
    List.map_congr_left fun x hx => hfill x (List.mem_append_left _ hx),
    List.map_congr_left fun x hx => hfill x (List.mem_append_right _ hx)]
  rfl

end MergeSort

end HomeCatalog
