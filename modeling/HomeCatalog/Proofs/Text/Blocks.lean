import HomeCatalog.Proofs.Text.OneLine
import HomeCatalog.Proofs.Text.Split
import HomeCatalog.Text.Lines

/-!
# Lines and blocks

A text file is a sequence of lines, and a sequence of lines falls into blocks where a line is empty.
`lines` and `blocks` read a text so. Reading undoes writing: lines that are written with a line end
after each are read again, whichever line end it is (`lines_ended`), and so are blocks with an empty
line after each (`blocks_closed`) or between each two (`blocks_separated`).
-/

namespace HomeCatalog

namespace Text

/-- The lines of a text, as files are read: a line ends in any of three ways, and the last one may
end with the text. -/
def lines (s : String) : List String :=
  let ls := split '\n' (String.ofList (unifyLineEnds s.toList))
  if ls.getLast? = some "" then ls.dropLast else ls

/-- The blocks that empty lines divide lines into. -/
def blocks (ls : List String) : List (List String) :=
  (ls.splitOn "").filter fun b => !b.isEmpty

/-- Lines with a line end after each. -/
def ended (newline : String) (ls : List String) : String :=
  String.join (ls.map (· ++ newline))

/-- One or more lines, none of them empty. -/
structure IsBlock (b : List String) : Prop where
  ne_nil : b ≠ []
  ne_empty : ∀ l ∈ b, l ≠ ""
  oneLine : ∀ l ∈ b, OneLine l

variable {newline : String} {ls : List String} {bs : List (List String)}

@[simp] theorem ended_nil (newline : String) : ended newline [] = "" := rfl

@[simp] theorem ended_cons (newline l : String) (ls : List String) :
    ended newline (l :: ls) = l ++ newline ++ ended newline ls := by
  rw [ended, List.map_cons, String.join_cons, ended]

theorem ended_append (newline : String) (ls ls' : List String) :
    ended newline (ls ++ ls') = ended newline ls ++ ended newline ls' := by
  rw [ended, List.map_append, String.join_append, ended, ended]

/-! ## Lines -/

/-- Characters of one line stay as they are before a line end, which becomes a line feed. -/
theorem unifyLineEnds_append {l : List Char} (hl : ∀ c ∈ l, isBreak c = false)
    (hnewline : newline = "\r\n" ∨ newline = "\n") (rest : List Char) :
    unifyLineEnds (l ++ newline.toList ++ rest) = l ++ '\n' :: unifyLineEnds rest := by
  induction l with
  | nil => rcases hnewline with rfl | rfl <;> rfl
  | cons c l ih =>
    obtain ⟨hc, hl⟩ := List.forall_mem_cons.1 hl
    obtain ⟨hreturn, -⟩ := isBreak_eq_false_iff.1 hc
    rw [List.cons_append, List.cons_append, unifyLineEnds, ih hl, List.cons_append]
    · rintro rest rfl
      exact absurd rfl hreturn
    · rintro rfl
      exact hreturn rfl

theorem split_unified_ended (hnewline : newline = "\r\n" ∨ newline = "\n")
    (hls : ∀ l ∈ ls, OneLine l) :
    split '\n' (String.ofList (unifyLineEnds (ended newline ls).toList)) = ls ++ [""] := by
  induction ls with
  | nil => rfl
  | cons l ls ih =>
    obtain ⟨hl, hls⟩ := List.forall_mem_cons.1 hls
    have hfeed : '\n' ∉ l.toList := fun hmem => absurd (hl _ hmem) (by decide)
    rw [ended_cons, String.toList_append, String.toList_append,
      unifyLineEnds_append hl hnewline, split_append_separator (s := l)
        (t := String.ofList (unifyLineEnds (ended newline ls).toList)), ih hls,
      split_of_not_mem hfeed]
    · rfl
    · rw [String.toList_ofList, String.toList_ofList]

theorem lines_ended (hnewline : newline = "\r\n" ∨ newline = "\n") (hls : ∀ l ∈ ls, OneLine l) :
    lines (ended newline ls) = ls := by
  rw [lines, split_unified_ended hnewline hls]
  simp

/-! ## Blocks -/

theorem IsBlock.not_mem {b : List String} (h : IsBlock b) : "" ∉ b :=
  fun hmem => h.ne_empty _ hmem rfl

theorem filter_blocks (h : ∀ b ∈ bs, IsBlock b) : (bs.filter fun b => !b.isEmpty) = bs :=
  List.filter_eq_self.2 fun b hb => by simpa using (h b hb).ne_nil

theorem blocks_separated (h : ∀ b ∈ bs, IsBlock b) : blocks ([""].intercalate bs) = bs := by
  cases bs with
  | nil => rfl
  | cons b bs =>
    rw [blocks, List.splitOn_intercalate "" (fun b hb => (h b hb).not_mem) (List.cons_ne_nil _ _),
      filter_blocks h]

/-- Behind the last empty line stands one more block, of no lines. -/
theorem flatMap_append_empty (bs : List (List String)) :
    (bs.flatMap fun b => b ++ [""]) = [""].intercalate (bs ++ [[]]) := by
  induction bs with
  | nil => rfl
  | cons b bs ih =>
    rw [List.flatMap_cons, ih]
    cases bs with
    | nil => simp
    | cons c bs => simp [List.intercalate_cons_cons]

theorem blocks_closed (h : ∀ b ∈ bs, IsBlock b) : blocks (bs.flatMap fun b => b ++ [""]) = bs := by
  have hnone : ∀ b ∈ bs ++ [[]], "" ∉ b := by
    intro b hb
    rcases List.mem_append.1 hb with hb | hb
    · exact (h b hb).not_mem
    · rw [List.mem_singleton.1 hb]
      exact List.not_mem_nil
  rw [flatMap_append_empty, blocks, List.splitOn_intercalate "" hnone (by simp),
    List.filter_append, filter_blocks h]
  simp

end Text

end HomeCatalog
