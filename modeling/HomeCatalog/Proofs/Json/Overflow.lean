import HomeCatalog.Proofs.Json.Held
import HomeCatalog.Proofs.Json.Number
import HomeCatalog.Proofs.Traversal

/-!
# Numbers that stop a reader

A document that is not read for a number holds a literal that cannot be held
(`Json.exists_literal_of_parse`). A reader takes characters from the front only, so what it leaves
is an end of what it was given, and the number that stops it stands in there (`Json.ReadsFrom`).
The induction is on the fuel, over values, items and members at once.
-/

namespace HomeCatalog.Json

open Decimal

/-- What is left is an end of these characters, and a number that cannot be held stands among
them. -/
def ReadsFrom {α : Type} (cs : List Char) (r : Read α) : Prop :=
  match r with
  | .ok (_, rest) => rest <:+ cs
  | .error (.number _) => ∃ l : NumberLiteral, ¬l.CanBeHeld ∧ l.chars <:+: cs
  | .error (.malformed _ _) => True

theorem ReadsFrom.mono {α : Type} {cs ds : List Char} {r : Read α} (h : ReadsFrom cs r)
    (hsuffix : cs <:+ ds) : ReadsFrom ds r := by
  cases r with
  | ok p => exact h.trans hsuffix
  | error e =>
    cases e with
    | malformed problem left => trivial
    | number f =>
      obtain ⟨l, hl, hstands⟩ := h
      exact ⟨l, hl, hstands.trans hsuffix.isInfix⟩

theorem ReadsFrom.append {α : Type} {cs : List Char} {r : Read α} (h : ReadsFrom cs r)
    (front : List Char) : ReadsFrom (front ++ cs) r :=
  h.mono (List.suffix_append front cs)

theorem ReadsFrom.error {α β : Type} {cs : List Char} {e : Stop}
    (h : ReadsFrom cs (.error e : Read α)) : ReadsFrom cs (.error e : Read β) := by
  cases e <;> exact h

theorem ReadsFrom.map {α β : Type} {cs : List Char} {r : Read α} (h : ReadsFrom cs r)
    (f : α → β) : ReadsFrom cs (r.map fun p => (f p.1, p.2)) := by
  cases r with
  | ok p => exact h
  | error e => exact h.error

theorem readsFrom_stopAt {α : Type} (problem : Problem) (rest cs : List Char) :
    ReadsFrom cs (stopAt problem rest : Read α) :=
  trivial

theorem skipSpace_suffix (cs : List Char) : skipSpace cs <:+ cs :=
  List.dropWhile_suffix _

theorem suffix_of_skipSpace {c : Char} {cs rest : List Char} (h : skipSpace cs = c :: rest) :
    rest <:+ cs :=
  (List.suffix_cons c rest).trans (h ▸ skipSpace_suffix cs)

/-! ## Numbers -/

/-- The exponent in front of some characters, if there is one. -/
theorem exists_exponent (cs : List Char) : ∃ (x : Option Exponent) (rest : List Char),
    cs = exponentEnd x ++ rest ∧ readScale? cs = x.map fun x => (x.scale, rest) := by
  cases hscale : readScale? cs with
  | none => exact ⟨none, cs, rfl, rfl⟩
  | some p =>
    cases cs with
    | nil => cases hscale
    | cons c cs =>
      obtain ⟨sign, hcs, hsign⟩ := exists_sign cs
      rw [NumberLiteral.readScale?_cons] at hscale
      split at hscale
      · next hletter =>
        split at hscale
        · cases hscale
        · next hdigits =>
          cases hscale
          let x : Exponent := ⟨c == 'E', sign, (splitSign cs).2.takeWhile (·.isDigit),
            by simpa using hdigits, fun _ => List.mem_takeWhile_imp⟩
          have hletter : x.letter = c := by rcases hletter with rfl | rfl <;> rfl
          refine ⟨some x, (splitSign cs).2.dropWhile (·.isDigit), ?_, ?_⟩
          · change _ = (x.letter :: (sign.chars ++ x.digits)) ++ _
            rw [hletter, List.cons_append, List.append_assoc, List.takeWhile_append_dropWhile, hcs]
          · rw [Option.map_some, Exponent.scale, hsign]
      · cases hscale

/-- The digits behind a point in front of some characters, if there are any. -/
theorem exists_fraction (cs : List Char) : ∃ (fraction : Option (List Char)) (rest : List Char),
    cs = pointChars fraction ++ rest ∧ readFraction? cs = fraction.map (fun ds => (ds, rest)) ∧
      fraction ≠ some [] ∧ ∀ c ∈ fraction.getD [], c.isDigit = true := by
  cases hfraction : readFraction? cs with
  | none => exact ⟨none, cs, rfl, rfl, nofun, nofun⟩
  | some p =>
    unfold readFraction? at hfraction
    split at hfraction
    · next cs =>
      dsimp only at hfraction
      split at hfraction
      · cases hfraction
      · next hdigits =>
        cases hfraction
        refine ⟨some (cs.takeWhile (·.isDigit)), cs.dropWhile (·.isDigit), ?_, rfl,
          by simpa using hdigits, fun _ => List.mem_takeWhile_imp⟩
        exact congrArg ('.' :: ·) List.takeWhile_append_dropWhile.symm
    · cases hfraction

/-- Whatever follows the whole part of a number, the number ends somewhere in it. -/
theorem readsFrom_readNumberAfter (negative : Bool) {whole : List Char} (hne : whole ≠ [])
    (hdigits : ∀ c ∈ whole, c.isDigit = true) (hzero : whole.head? = some '0' → whole = ['0'])
    (after : List Char) :
    ReadsFrom (Numeral.minus negative ++ (whole ++ after))
      (readNumberAfter negative whole after) := by
  obtain ⟨fraction, afterFraction, hafter, hfraction, hfractionNe, hfractionDigits⟩ :=
    exists_fraction after
  obtain ⟨x, rest, rfl, hscale⟩ := exists_exponent afterFraction
  let sign : Sign := if negative then .minus else .none
  let l : NumberLiteral :=
    { sign := sign, whole := whole, fraction := fraction, exponent := x
      isDigit_of_mem := List.forall_mem_append.2 ⟨hdigits, hfractionDigits⟩
      digits_ne_nil := by simp [hne]
      sign_ne_plus := by cases negative <;> nofun
      whole_ne_nil := hne
      whole_eq_zero := hzero
      fraction_ne_nil := hfractionNe }
  have hnegative : l.sign.isNegative = negative := by cases negative <;> rfl
  have hchars : Numeral.minus negative ++ (whole ++ after) = l.chars ++ rest := by
    rw [Spelling.chars, NumberLiteral.chars_sign, hnegative, hafter, Spelling.body]
    simp only [List.append_assoc]
    rfl
  have hread := NumberLiteral.readNumberAfter_of_parts (l := l) hafter hfraction hscale
  rw [hnegative] at hread
  rw [hchars]
  obtain hread | ⟨hheld, f, hread⟩ := hread
  · rw [hread]
    exact List.suffix_append _ _
  · rw [hread]
    exact ⟨l, hheld, (List.prefix_append _ _).isInfix⟩

theorem minus_splitMinus (cs : List Char) :
    Numeral.minus (NumberLiteral.splitMinus cs).1 ++ (NumberLiteral.splitMinus cs).2 = cs := by
  unfold NumberLiteral.splitMinus
  split <;> rfl

theorem readsFrom_readNumber (cs : List Char) : ReadsFrom cs (readNumber cs) := by
  rw [NumberLiteral.readNumber_eq]
  nth_rewrite 1 [← minus_splitMinus cs]
  generalize (NumberLiteral.splitMinus cs).1 = negative, (NumberLiteral.splitMinus cs).2 = body
  unfold NumberLiteral.readUnsigned
  split
  · exact readsFrom_readNumberAfter negative (List.cons_ne_nil '0' [])
      (List.forall_mem_singleton.2 rfl) (fun _ => rfl) _
  · next hzero =>
    dsimp only
    split
    · exact readsFrom_stopAt _ _ _
    · next hne =>
      have hwhole : body.takeWhile (·.isDigit) ≠ [] := by simpa using hne
      have hread := readsFrom_readNumberAfter negative hwhole (fun _ => List.mem_takeWhile_imp) ?_
        (body.dropWhile (·.isDigit))
      · rwa [List.takeWhile_append_dropWhile] at hread
      · -- A zero that leads the digits leads all that is left, and that case has been treated.
        intro hhead
        cases body with
        | nil => cases hhead
        | cons c body =>
          rw [List.takeWhile_cons] at hhead
          split at hhead
          · exact absurd (congrArg (· :: body) (Option.some.inj hhead)) (hzero body)
          · cases hhead

/-! ## Texts -/

theorem readsFrom_readText (start cs : List Char) (read : List Letter) :
    ReadsFrom cs (readText start read cs) := by
  fun_induction readText start read cs with
  | case2 => exact List.suffix_cons _ _
  | case5 read a b c d rest _ n _ ih => exact ih.append ['\\', 'u', a, b, c, d]
  | case7 read c rest _ _ d _ ih => exact ih.append ['\\', c]
  | case11 read c rest _ _ _ _ _ _ ih => exact ih.append [c]
  | _ => exact readsFrom_stopAt _ _ _

/-! ## Values -/

/-- With this much fuel, reading ends within what is given. -/
structure ReadsOnward (fuel : Nat) : Prop where
  value : ∀ cs, ReadsFrom cs (readValue fuel cs)
  items : ∀ items cs, ReadsFrom cs (readItems fuel items cs)
  members : ∀ members cs, ReadsFrom cs (readMembers fuel members cs)

section Step

variable {fuel : Nat} (ih : ReadsOnward fuel) (cs : List Char)

include ih in
theorem readsFrom_readValue : ReadsFrom cs (readValue (fuel + 1) cs) := by
  unfold readValue
  split
  · next rest => exact ((readsFrom_readText _ rest []).append ['"']).map _
  · next rest =>
    split
    · next hrest => exact (suffix_of_skipSpace hrest).trans (List.suffix_cons _ _)
    · exact (ih.members [] _).mono ((skipSpace_suffix rest).trans (List.suffix_cons _ _))
  · next rest =>
    split
    · next hrest => exact (suffix_of_skipSpace hrest).trans (List.suffix_cons _ _)
    · exact (ih.items [] _).mono ((skipSpace_suffix rest).trans (List.suffix_cons _ _))
  any_goals exact readsFrom_readNumber _
  all_goals simp [ReadsFrom, List.suffix_cons_iff]

include ih in
theorem readsFrom_readItems (items : List Json) : ReadsFrom cs (readItems (fuel + 1) items cs) := by
  have hvalue := ih.value cs
  unfold readItems
  split
  · next he =>
    rw [he] at hvalue
    exact hvalue.error
  · next item rest hitem =>
    rw [hitem] at hvalue
    have hrest : rest <:+ cs := hvalue
    split
    · next hskip => exact (suffix_of_skipSpace hskip).trans hrest
    · next hskip =>
      have hafter := (skipSpace_suffix _).trans ((suffix_of_skipSpace hskip).trans hrest)
      exact (ih.items _ _).mono hafter
    · exact readsFrom_stopAt _ _ _

include ih in
theorem readsFrom_readMembers (members : List (Letters × Json)) :
    ReadsFrom cs (readMembers (fuel + 1) members cs) := by
  unfold readMembers
  split
  · next start =>
    have hname := (readsFrom_readText ('"' :: start) start []).append ['"']
    split
    · next he =>
      rw [he] at hname
      exact hname.error
    · next name afterName hreadName =>
      rw [hreadName] at hname
      have hafterName : afterName <:+ '"' :: start := hname
      split
      · next afterColon hcolon =>
        have hafterColon := (suffix_of_skipSpace hcolon).trans hafterName
        have hvalue := (ih.value (skipSpace afterColon)).mono
          ((skipSpace_suffix _).trans hafterColon)
        split
        · next he =>
          rw [he] at hvalue
          exact hvalue.error
        · next value afterValue hreadValue =>
          rw [hreadValue] at hvalue
          have hafterValue : afterValue <:+ '"' :: start := hvalue
          dsimp only
          split
          · next hskip => exact (suffix_of_skipSpace hskip).trans hafterValue
          · next hskip =>
            have hafter :=
              (skipSpace_suffix _).trans ((suffix_of_skipSpace hskip).trans hafterValue)
            exact (ih.members _ _).mono hafter
          · exact readsFrom_stopAt _ _ _
      · exact readsFrom_stopAt _ _ _
  · exact readsFrom_stopAt _ _ _

end Step

theorem readsOnward (fuel : Nat) : ReadsOnward fuel := by
  induction fuel with
  | zero =>
    refine ⟨fun cs => ?_, fun items cs => ?_, fun members cs => ?_⟩
    · exact readsFrom_stopAt _ _ _
    · exact readsFrom_stopAt _ _ _
    · exact readsFrom_stopAt _ _ _
  | succ fuel ih =>
    exact ⟨readsFrom_readValue ih, fun items cs => readsFrom_readItems ih cs items,
      fun members cs => readsFrom_readMembers ih cs members⟩

/-! ## Documents -/

theorem exists_literal_of_readDocument {cs : List Char} {f : NumberFault}
    (h : readDocument cs = .error (.number f)) :
    ∃ l : NumberLiteral, ¬l.CanBeHeld ∧ l.chars <:+: cs := by
  unfold readDocument at h
  split at h
  · cases h
  · have hvalue := ((readsOnward (2 * cs.length + 2)).value (skipSpace cs)).mono
      (skipSpace_suffix cs)
    split at h
    · next he =>
      cases h
      rwa [he] at hvalue
    · split at h
      · cases h
      · cases h

theorem parse_eq_number_iff {text : String} {f : NumberFault} :
    parse text = .error (.number f) ↔ readDocument text.toList = .error (.number f) := by
  unfold parse
  cases readDocument text.toList with
  | ok j => simp
  | error e => cases e <;> simp [Stop.locate]

/-- Where a number ends the reading, one that cannot be held stands in the text. -/
theorem exists_literal_of_parse {text : String} {f : NumberFault}
    (h : parse text = .error (.number f)) :
    ∃ l : NumberLiteral, ¬l.CanBeHeld ∧ l.chars <:+: text.toList :=
  exists_literal_of_readDocument (parse_eq_number_iff.1 h)

end HomeCatalog.Json
