import HomeCatalog.Layout.Text

/-!
# Quoted texts are read back

A quoted text says where it ends: what is read after the opening quote is the text, and what is left
is what follows the closing quote (`unquote?_quote_append`), whatever the text holds. So different
texts are quoted differently (`quote_injective`).

Backslashes and quotes may be escaped one after the other, as long as the backslashes come first
(`toList_quote`). The other way round the backslashes before the quotes would be escaped again.
-/

namespace HomeCatalog

/-! ## Escapes -/

/-- The characters with `word` in place of each `c`. -/
def replaced (c : Char) (word cs : List Char) : List Char :=
  cs.flatMap fun d => if d = c then word else [d]

theorem flatMap_quotedChar (cs : List Char) :
    cs.flatMap quotedChar = replaced '"' ['\\', '"'] (replaced '\\' ['\\', '\\'] cs) := by
  rw [replaced, replaced, List.flatMap_assoc]
  refine congrArg (fun f => cs.flatMap f) (funext fun c => ?_)
  rw [quotedChar]
  by_cases hbackslash : c = '\\'
  · subst hbackslash
    rfl
  · rw [if_neg hbackslash, List.flatMap_singleton]
    by_cases hquote : c = '"'
    · subst hquote
      rfl
    · rw [if_neg (by simp [hbackslash, hquote]), if_neg hquote]

theorem toList_quote (s : String) :
    (quote s).toList =
      '"' :: replaced '"' ['\\', '"'] (replaced '\\' ['\\', '\\'] s.toList) ++ ['"'] := by
  rw [quote, String.toList_ofList, flatMap_quotedChar]

example : replaced '\\' ['\\', '\\'] (replaced '"' ['\\', '"'] ['"']) = ['\\', '\\', '"'] := rfl

/-! ## Reading -/

theorem unquoteRest_quotedChar (c : Char) (rest : List Char) :
    unquoteRest (quotedChar c ++ rest) = (unquoteRest rest).map fun r => (c :: r.1, r.2) := by
  unfold quotedChar
  split
  · rw [List.cons_append, List.singleton_append, unquoteRest]
  · next hc =>
    rw [not_or] at hc
    rw [List.singleton_append, unquoteRest]
    · exact hc.2
    · exact fun _ _ h => absurd h hc.1
    · exact fun h => absurd h hc.1

theorem unquoteRest_flatMap (cs rest : List Char) :
    unquoteRest (cs.flatMap quotedChar ++ '"' :: rest) = some (cs, rest) := by
  induction cs with
  | nil => rfl
  | cons c cs ih =>
    rw [List.flatMap_cons, List.append_assoc, unquoteRest_quotedChar, ih, Option.map_some]

theorem toList_quote_append (s : String) (rest : List Char) :
    (quote s).toList ++ rest = '"' :: (s.toList.flatMap quotedChar ++ '"' :: rest) := by
  rw [quote, String.toList_ofList]
  simp

theorem unquote?_quote_append (s : String) (rest : List Char) :
    unquote? ((quote s).toList ++ rest) = some (s.toList, rest) := by
  rw [toList_quote_append, unquote?, unquoteRest_flatMap]

theorem quote_injective : Function.Injective quote := by
  intro s t h
  have hs := unquote?_quote_append s []
  rw [h, unquote?_quote_append, Option.some.injEq, Prod.mk.injEq] at hs
  exact (String.toList_injective hs.1).symm

/-- A text without quotes and backslashes stands between quotes as it is. -/
theorem quote_of_forall {s : String} (h : ∀ c ∈ s.toList, c ≠ '\\' ∧ c ≠ '"') :
    quote s = "\"" ++ s ++ "\"" := by
  have hflat : ∀ {cs : List Char}, (∀ c ∈ cs, c ≠ '\\' ∧ c ≠ '"') →
      cs.flatMap quotedChar = cs := by
    intro cs hcs
    induction cs with
    | nil => rfl
    | cons c cs ih =>
      obtain ⟨hc, hcs⟩ := List.forall_mem_cons.1 hcs
      rw [List.flatMap_cons, ih hcs, quotedChar, if_neg (by rw [not_or]; exact hc)]
      rfl
  apply String.toList_injective
  rw [quote, String.toList_ofList, hflat h]
  simp

end HomeCatalog
