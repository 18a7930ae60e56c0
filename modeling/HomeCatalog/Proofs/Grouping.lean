import Mathlib.Data.List.Perm.Basic

/-!
# Shares of a list

A list is shared out among keys: each key gets the elements that name it, in order. Keys that
differ get different elements (`filter_append_filter_perm`), so distinct keys together get every
element that names one of them, and get it once (`flatMap_filter_perm`).
-/

namespace HomeCatalog

universe u v

variable {α : Type u} {β : Type v}

theorem filterMap_ite_some (p : α → Prop) [DecidablePred p] (f : α → β) (xs : List α) :
    (xs.filterMap fun x => if p x then some (f x) else none) =
      (xs.filter fun x => decide (p x)).map f := by
  induction xs with
  | nil => rfl
  | cons x xs ih =>
    rw [List.filterMap_cons]
    by_cases hx : p x
    · rw [if_pos hx, List.filter_cons_of_pos (by simpa using hx), List.map_cons, ← ih]
    · rw [if_neg hx, List.filter_cons_of_neg (by simpa using hx), ← ih]

/-- Two tests that never hold together pick their shares of a list. -/
theorem filter_append_filter_perm {p q : α → Bool}
    (hdisjoint : ∀ x, p x = true → q x = false) (xs : List α) :
    (xs.filter p ++ xs.filter q).Perm (xs.filter fun x => p x || q x) := by
  have hp : (xs.filter fun x => p x || q x).filter p = xs.filter p := by
    rw [List.filter_filter]
    exact List.filter_congr fun x _ => by cases p x <;> simp
  have hq : (xs.filter fun x => p x || q x).filter (fun x => !p x) = xs.filter q := by
    rw [List.filter_filter]
    refine List.filter_congr fun x _ => ?_
    cases hx : p x with
    | false => simp
    | true => simp [hdisjoint x hx]
  rw [← hp, ← hq]
  exact List.filter_append_perm p _

/-- Distinct keys share out the elements that name one of them. -/
theorem flatMap_filter_perm [DecidableEq β] (key : α → β) {keys : List β} (hkeys : keys.Nodup)
    (xs : List α) :
    (keys.flatMap fun k => xs.filter fun x => key x == k).Perm
      (xs.filter fun x => keys.contains (key x)) := by
  induction keys with
  | nil => simp
  | cons k keys ih =>
    obtain ⟨hk, hkeys⟩ := List.nodup_cons.1 hkeys
    rw [List.flatMap_cons]
    refine ((ih hkeys).append_left _).trans ((filter_append_filter_perm ?_ xs).trans ?_)
    · intro x hx
      rw [beq_iff_eq.1 hx]
      simpa using hk
    · exact .of_eq (List.filter_congr fun x _ => List.contains_cons.symm)

end HomeCatalog
