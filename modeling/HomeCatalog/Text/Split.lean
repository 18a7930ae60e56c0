/-!
# Splitting

A list cut at every occurrence of a separator, and so a text. `joined_pieces` says that the pieces
with separators between them are the text again, and `not_mem_of_mem_pieces` that no piece holds a
separator.
-/

namespace HomeCatalog.Text

section Pieces

variable {α : Type} [DecidableEq α] (separator : α)

/-- The pieces of a list between the occurrences of a separator; always one at least. -/
def pieces : List α → List (List α)
  | [] => [[]]
  | c :: cs =>
    if c = separator then [] :: pieces cs
    else match pieces cs with
      | [] => [[c]]
      | p :: ps => (c :: p) :: ps

/-- Pieces with a separator between each two. -/
def joined : List (List α) → List α
  | [] => []
  | [p] => p
  | p :: ps => p ++ separator :: joined ps

end Pieces

/-- The texts between the occurrences of a separator; always one at least. -/
def split (separator : Char) (s : String) : List String :=
  (pieces separator s.toList).map String.ofList

/-- The texts of a split, with the separator between each two. -/
def join (separator : Char) (parts : List String) : String :=
  String.ofList (joined separator (parts.map String.toList))

section Pieces

variable {α : Type} [DecidableEq α]

theorem pieces_ne_nil (separator : α) (cs : List α) : pieces separator cs ≠ [] := by
  cases cs with
  | nil => simp [pieces]
  | cons c cs =>
    rw [pieces]
    split
    · simp
    · split <;> simp

theorem joined_pieces (separator : α) (cs : List α) :
    joined separator (pieces separator cs) = cs := by
  induction cs with
  | nil => rfl
  | cons c cs ih =>
    rw [pieces]
    split
    · next h =>
      cases hp : pieces separator cs with
      | nil => exact absurd hp (pieces_ne_nil _ _)
      | cons p ps => rw [joined, ← hp, ih, h]; rfl; simp
    · split
      · next hp => exact absurd hp (pieces_ne_nil _ _)
      · next p ps hp =>
        rw [hp] at ih
        cases ps with
        | nil => simp only [joined] at ih ⊢; rw [ih]
        | cons q qs => simp only [joined, List.cons_append] at ih ⊢; rw [ih]

omit [DecidableEq α] in
theorem joined_map {β : Type} (f : α → β) (separator : α) (ps : List (List α)) :
    joined (f separator) (ps.map (List.map f)) = (joined separator ps).map f := by
  induction ps with
  | nil => rfl
  | cons p ps ih =>
    cases ps with
    | nil => rfl
    | cons q qs =>
      have hjoined : joined separator (p :: q :: qs) =
          p ++ separator :: joined separator (q :: qs) := rfl
      rw [hjoined, List.map_append, List.map_cons (a := separator), ← ih]
      rfl

theorem not_mem_of_mem_pieces {separator : α} {cs p : List α}
    (h : p ∈ pieces separator cs) : separator ∉ p := by
  induction cs generalizing p with
  | nil => simp only [pieces, List.mem_singleton] at h; simp [h]
  | cons c cs ih =>
    rw [pieces] at h
    split at h
    · rcases List.mem_cons.1 h with rfl | h
      · simp
      · exact ih h
    · next hc =>
      split at h
      · next hp => exact absurd hp (pieces_ne_nil _ _)
      · next q qs hp =>
        rcases List.mem_cons.1 h with rfl | h
        · have := ih (p := q) (by rw [hp]; simp)
          simp [Ne.symm hc, this]
        · exact ih (by rw [hp]; simp [h])

end Pieces

end HomeCatalog.Text
