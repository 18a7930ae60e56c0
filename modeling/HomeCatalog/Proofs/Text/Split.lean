import HomeCatalog.Text.Split

/-!
# Splitting and joining

Joining undoes splitting (`join_split`), and splitting undoes joining as long as no part holds the
separator (`split_join`). A split is therefore determined by its text, and its parts never hold the
separator (`not_mem_of_mem_split`). Two texts with a separator between them are split one after the
other (`split_append_separator`), and the last part is empty exactly if nothing stands after the
last separator (`getLast?_split_eq_empty_iff`).
-/

namespace HomeCatalog.Text

variable {separator : Char}

theorem pieces_of_not_mem {cs : List Char} (h : separator ∉ cs) : pieces separator cs = [cs] := by
  induction cs with
  | nil => rfl
  | cons c cs ih =>
    obtain ⟨hc, hcs⟩ : separator ≠ c ∧ separator ∉ cs := by simpa using h
    rw [pieces, if_neg (Ne.symm hc), ih hcs]

theorem pieces_append {p : List Char} (h : separator ∉ p) (cs : List Char) :
    pieces separator (p ++ separator :: cs) = p :: pieces separator cs := by
  induction p with
  | nil => simp [pieces]
  | cons c p ih =>
    obtain ⟨hc, hp⟩ : separator ≠ c ∧ separator ∉ p := by simpa using h
    rw [List.cons_append, pieces, if_neg (Ne.symm hc), ih hp]

theorem pieces_append_separator (separator : Char) (xs ys : List Char) :
    pieces separator (xs ++ separator :: ys) = pieces separator xs ++ pieces separator ys := by
  induction xs with
  | nil => simp [pieces]
  | cons x xs ih =>
    rw [List.cons_append, pieces, pieces, ih]
    split
    · rfl
    · cases hp : pieces separator xs with
      | nil => exact absurd hp (pieces_ne_nil _ _)
      | cons p ps => rfl

theorem pieces_joined {ps : List (List Char)} (hne : ps ≠ []) (h : ∀ p ∈ ps, separator ∉ p) :
    pieces separator (joined separator ps) = ps := by
  induction ps with
  | nil => exact absurd rfl hne
  | cons p ps ih =>
    have hp : separator ∉ p := h p List.mem_cons_self
    cases ps with
    | nil => exact pieces_of_not_mem hp
    | cons q qs =>
      rw [joined, pieces_append hp, ih (by simp) fun r hr => h r (List.mem_cons_of_mem _ hr)]
      simp

theorem joined_concat_nil {ps : List (List Char)} (hne : ps ≠ []) :
    joined separator (ps ++ [[]]) = joined separator ps ++ [separator] := by
  induction ps with
  | nil => exact absurd rfl hne
  | cons p ps ih =>
    cases ps with
    | nil => simp [joined]
    | cons q qs =>
      have hstep : ∀ rs, joined separator (p :: q :: rs) =
          p ++ separator :: joined separator (q :: rs) := fun _ => rfl
      rw [List.cons_append, List.cons_append, hstep, hstep, ← List.cons_append, ih (by simp),
        List.append_assoc, List.cons_append]

theorem getLast?_pieces_eq_nil_iff {cs : List Char} :
    (pieces separator cs).getLast? = some [] ↔ cs = [] ∨ ∃ xs, cs = xs ++ [separator] := by
  constructor
  · intro h
    obtain ⟨ps, hps⟩ := List.getLast?_eq_some_iff.1 h
    have hcs := joined_pieces separator cs
    rw [hps] at hcs
    by_cases hne : ps = []
    · exact .inl (by rw [← hcs, hne]; rfl)
    · exact .inr ⟨joined separator ps, by rw [← hcs, joined_concat_nil hne]⟩
  · rintro (rfl | ⟨xs, rfl⟩)
    · rfl
    · rw [pieces_append_separator, pieces, List.getLast?_concat]

/-! ## Texts -/

theorem join_split (separator : Char) (s : String) : join separator (split separator s) = s := by
  have h : ((pieces separator s.toList).map String.ofList).map String.toList =
      pieces separator s.toList := by
    rw [List.map_map]
    exact List.map_id'' (fun cs => String.toList_ofList) _
  rw [join, split, h, joined_pieces, String.ofList_toList]

theorem split_join {parts : List String} (hne : parts ≠ [])
    (h : ∀ p ∈ parts, separator ∉ p.toList) : split separator (join separator parts) = parts := by
  have hp : ∀ cs ∈ parts.map String.toList, separator ∉ cs := by
    intro cs hcs
    obtain ⟨p, hp, rfl⟩ := List.mem_map.1 hcs
    exact h p hp
  rw [split, join, String.toList_ofList, pieces_joined (by simpa using hne) hp, List.map_map]
  exact List.map_id'' (fun p => String.ofList_toList) _

theorem not_mem_of_mem_split {s p : String} (h : p ∈ split separator s) :
    separator ∉ p.toList := by
  obtain ⟨cs, hcs, rfl⟩ := List.mem_map.1 h
  rw [String.toList_ofList]
  exact not_mem_of_mem_pieces hcs

theorem split_ne_nil (separator : Char) (s : String) : split separator s ≠ [] := by
  simpa [split] using pieces_ne_nil separator s.toList

theorem getLast?_split_eq_empty_iff {s : String} :
    (split separator s).getLast? = some "" ↔
      s = "" ∨ ∃ t : String, s = t ++ String.singleton separator := by
  rw [split, List.getLast?_map, Option.map_eq_some_iff]
  have hlast : (∃ cs, (pieces separator s.toList).getLast? = some cs ∧ String.ofList cs = "") ↔
      (pieces separator s.toList).getLast? = some [] := by
    simp
  rw [hlast, getLast?_pieces_eq_nil_iff, String.toList_eq_nil_iff]
  refine or_congr_right ⟨?_, ?_⟩
  · rintro ⟨xs, hxs⟩
    exact ⟨String.ofList xs, String.toList_inj.1 (by simpa using hxs)⟩
  · rintro ⟨t, rfl⟩
    exact ⟨t.toList, by simp⟩

theorem split_of_not_mem {s : String} (h : separator ∉ s.toList) : split separator s = [s] := by
  rw [split, pieces_of_not_mem h, List.map_singleton, String.ofList_toList]

theorem split_append_separator {u s t : String}
    (h : u.toList = s.toList ++ separator :: t.toList) :
    split separator u = split separator s ++ split separator t := by
  rw [split, h, pieces_append_separator, List.map_append]
  rfl

theorem eq_of_split_eq {s t : String} (h : split separator s = split separator t) : s = t := by
  rw [← join_split separator s, h, join_split]

end HomeCatalog.Text
