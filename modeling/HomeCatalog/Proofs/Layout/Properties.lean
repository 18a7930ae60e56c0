import HomeCatalog.Proofs.Layout.Frame
import HomeCatalog.Proofs.Layout.Quoted
import HomeCatalog.Proofs.Value.Number

/-!
# Properties are read back

A list of properties says what it holds and where it ends: the names and the values as they are
written can be read back, whatever follows the list (`properties_read_back`). A name ends at an
equals sign with the beginning of a value behind it. A value between quotes ends itself. Any other
value is a number or a truth value, and these hold no character that a list needs to go on.
-/

namespace HomeCatalog

/-! ## Reading -/

/-- A value may begin so; in the metadata truth values stand between quotes. -/
def beginsValue (metadata : Bool) (c : Char) : Bool :=
  c == '"' || c == '-' || Text.isDigit c || (!metadata && (c == 't' || c == 'f'))

/-- Read up to the first equals sign with such a character behind it. The sign is taken off too. -/
def readKey (begins : Char → Bool) : Reader (List Char)
  | [] => none
  | c :: cs =>
    if c = '=' ∧ cs.head?.any begins = true then some ([], cs)
    else (readKey begins cs).map fun r => (c :: r.1, r.2)

/-- Read a value as it is written: up to its closing quote, or to where the list goes on. -/
def Frame.readValue (f : Frame) : Reader String := fun cs =>
  match unquote? cs with
  | some (s, rest) => some (quote (String.ofList s), rest)
  | none => (f.readBare cs).map fun (w, rest) => (String.ofList w, rest)

def Frame.readAssignment (f : Frame) (metadata : Bool) : Reader (String × String) := fun cs =>
  (readKey (beginsValue metadata) cs).bind fun (name, rest) =>
    (f.readValue rest).map fun (s, rest) => ((String.ofList name, s), rest)

def propertyFrame (newline : String) (indent : Int) (inline : Bool) : Frame :=
  .ofLayout '[' ']' (by decide) newline indent inline

/-- Read a list of properties: the names, and the values as they are written. -/
def readProperties (metadata : Bool) (newline : String) (indent : Int) (inline : Bool) :
    Reader (List (String × String)) :=
  let f := propertyFrame newline indent inline
  f.read (f.readAssignment metadata)

/-! ## Names -/

/-- No equals sign has such a character behind it. -/
def IsKey (begins : Char → Bool) (w : List Char) : Prop :=
  ∀ d, begins d = true → ¬['=', d] <:+: w

theorem isKey_of_not_mem {begins : Char → Bool} {w : List Char} (h : '=' ∉ w) : IsKey begins w :=
  fun _ _ hpair => h (hpair.subset List.mem_cons_self)

theorem readKey_append {begins : Char → Bool} (hequals : begins '=' = false) {w : List Char}
    (hw : IsKey begins w) {d : Char} (hd : begins d = true) (rest : List Char) :
    readKey begins (w ++ '=' :: d :: rest) = some (w, d :: rest) := by
  induction w with
  | nil => rw [List.nil_append, readKey, List.head?_cons, Option.any_some, if_pos ⟨rfl, hd⟩]
  | cons c w ih =>
    have hgo : ¬(c = '=' ∧ (w ++ '=' :: d :: rest).head?.any begins = true) := by
      rintro ⟨rfl, hhead⟩
      cases w with
      | nil =>
        rw [List.nil_append, List.head?_cons, Option.any_some, hequals] at hhead
        cases hhead
      | cons e w => exact hw e hhead ⟨[], w, rfl⟩
    have htail : IsKey begins w :=
      fun e he hpair => hw e he (hpair.trans (List.suffix_cons c w).isInfix)
    rw [List.cons_append, readKey, if_neg hgo, ih htail, Option.map_some]

/-! ## How values are written -/

def IsLiteralChar (c : Char) : Prop :=
  c = '-' ∨ c = '.' ∨ Text.isDigit c = true ∨ c.isLower = true

instance : DecidablePred IsLiteralChar := fun _ => inferInstanceAs (Decidable (_ ∨ _))

theorem ne_of_isLiteralChar {c d : Char} (hc : IsLiteralChar c) (hd : ¬IsLiteralChar d) :
    c ≠ d := by
  rintro rfl
  exact hd hc

/-- Characters of a number or a truth value, with the first of a value at the beginning. -/
structure IsLiteral (metadata : Bool) (s : String) : Prop where
  begins : ∃ c cs, s.toList = c :: cs ∧ beginsValue metadata c = true
  char : ∀ c ∈ s.toList, IsLiteralChar c

theorem Numeral.isLiteral_text (metadata : Bool) (n : Numeral) : IsLiteral metadata n.text where
  begins := by
    rw [text, String.toList_ofList, chars]
    cases n.negative with
    | true => exact ⟨'-', _, rfl, by cases metadata <;> decide⟩
    | false =>
      cases hw : n.whole with
      | nil => exact absurd hw n.whole_ne_nil
      | cons d ds =>
        have hmem : d ∈ n.whole := by
          rw [hw]
          exact List.mem_cons_self
        have hd := n.isDigit_of_mem_whole d hmem
        exact ⟨d, _, rfl, by simp [beginsValue, hd]⟩
  char := by
    intro c hc
    rw [text, String.toList_ofList] at hc
    rcases ValueKind.mem_of_isFixedDecimal n.isFixedDecimal_chars hc with hc | hc | hc
    · exact .inl hc
    · exact .inr (.inl (List.mem_singleton.1 hc))
    · exact .inr (.inr (.inl hc))

theorem isLiteral_of_truth {s : String} (h : s = "true" ∨ s = "false") : IsLiteral false s := by
  rcases h with rfl | rfl
  · exact ⟨⟨'t', _, rfl, rfl⟩, by simp [IsLiteralChar]⟩
  · exact ⟨⟨'f', _, rfl, rfl⟩, by simp [IsLiteralChar]⟩

theorem quote_of_isLiteral {metadata : Bool} {s : String} (h : IsLiteral metadata s) :
    quote s = literal true s :=
  quote_of_forall fun c hc =>
    ⟨ne_of_isLiteralChar (h.char c hc) (by decide), ne_of_isLiteralChar (h.char c hc) (by decide)⟩

/-- The value has one of the kinds that are checked, and its text fits the kind. -/
structure Value.IsSound (v : Value) : Prop where
  known : v.kind ≠ .unknown
  fault : v.fault? = none

namespace Value

variable {v : Value}

/-- What is no text between quotes is a number or a truth value. -/
theorem render_cases (h : v.IsSound) :
    (∃ s, v.render = quote s) ∨ IsLiteral v.metadata v.render := by
  have hnumeral : ∀ n : Numeral, WrittenNumber v n →
      (∃ s, v.render = quote s) ∨ IsLiteral v.metadata v.render := by
    intro n hn
    rw [hn.render]
    cases v.metadata && v.kind == .decimal with
    | true => exact .inl ⟨n.text, (quote_of_isLiteral (n.isLiteral_text true)).symm⟩
    | false => exact .inr (n.isLiteral_text v.metadata)
  cases hk : v.kind with
  | int =>
    obtain ⟨n, hn⟩ := exists_writtenNumber_of_int hk h.fault
    exact hnumeral n hn
  | decimal =>
    obtain ⟨n, hn⟩ := exists_writtenNumber_of_decimal hk h.fault
    exact hnumeral n hn
  | bool =>
    have htakes := fault?_eq_none_iff.1 h.fault
    rw [hk] at htakes
    have hword := isLiteral_of_truth htakes
    have hrender : v.render = literal v.metadata (Text.lower (Text.strip v.raw)) := by
      rw [render, hk]
    rw [hrender]
    cases v.metadata with
    | true => exact .inl ⟨_, (quote_of_isLiteral hword).symm⟩
    | false => exact .inr hword
  | string =>
    refine .inl ⟨v.raw, ?_⟩
    rw [render, hk]
  | unknown => exact absurd hk h.known

theorem exists_begins (h : v.IsSound) :
    ∃ c cs, v.render.toList = c :: cs ∧ beginsValue v.metadata c = true := by
  rcases render_cases h with ⟨s, hs⟩ | hliteral
  · have hquote := toList_quote_append s []
    rw [List.append_nil] at hquote
    exact ⟨'"', _, hs ▸ hquote, rfl⟩
  · exact hliteral.begins

theorem beginsValue_of_imp {metadata : Bool} (h : metadata = true → v.metadata = true) {c : Char}
    (hc : beginsValue v.metadata c = true) : beginsValue metadata c = true := by
  cases metadata with
  | true => rwa [h rfl] at hc
  | false =>
    cases hm : v.metadata with
    | true =>
      rw [hm] at hc
      simp only [beginsValue, Bool.not_true, Bool.false_and, Bool.or_false] at hc
      rw [beginsValue, hc, Bool.true_or]
    | false => rwa [hm] at hc

/-- The name of a value, and the value as it is written. -/
def written (v : Value) : String × String :=
  (v.name, v.render)

/-- The name and the value can be told apart where they stand next to each other. -/
structure IsReadable (metadata : Bool) (v : Value) : Prop extends v.IsSound where
  name : IsKey (beginsValue metadata) v.name.toList
  mode : metadata = true → v.metadata = true

theorem IsSound.isReadable (h : v.IsSound) (hname : '=' ∉ v.name.toList) : v.IsReadable false where
  toIsSound := h
  name := isKey_of_not_mem hname
  mode := nofun

end Value

/-! ## Reading back -/

section ReadBack

variable {f : Frame} (hending : ¬IsLiteralChar f.ending)

include hending

theorem Frame.readValue_append {v : Value} (h : v.IsSound) {rest : List Char}
    (hrest : f.Stops rest) : f.readValue (v.render.toList ++ rest) = some (v.render, rest) := by
  rcases v.render_cases h with ⟨s, hs⟩ | hliteral
  · rw [hs, readValue, unquote?_quote_append]
    dsimp only
    rw [String.ofList_toList]
  · have hcomma : ',' ∉ v.render.toList := fun hc => absurd (hliteral.char _ hc) (by decide)
    have hclosing : f.ending ∉ v.render.toList := fun hc => hending (hliteral.char _ hc)
    have hquote : unquote? (v.render.toList ++ rest) = none := by
      obtain ⟨c, cs, hcs, -⟩ := hliteral.begins
      have hc : c ≠ '"' :=
        ne_of_isLiteralChar (hliteral.char c (by rw [hcs]; exact List.mem_cons_self)) (by decide)
      rw [hcs, List.cons_append, unquote?]
      rintro _ ⟨⟩
      exact hc rfl
    rw [readValue, hquote]
    dsimp only
    rw [readBare_append hcomma hclosing hrest, Option.map_some, String.ofList_toList]

theorem Frame.readAssignment_append {metadata : Bool} {v : Value} (h : v.IsReadable metadata)
    {rest : List Char} (hrest : f.Stops rest) :
    f.readAssignment metadata (v.assignment.toList ++ rest) = some (v.written, rest) := by
  obtain ⟨c, cs, hcs, hc⟩ := Value.exists_begins h.toIsSound
  have hequals : beginsValue metadata '=' = false := by cases metadata <;> decide
  have htext : v.assignment.toList ++ rest = v.name.toList ++ '=' :: c :: (cs ++ rest) := by
    rw [Value.assignment, String.toList_append, String.toList_append, List.append_assoc,
      List.append_assoc, hcs]
    rfl
  rw [htext, readAssignment,
    readKey_append hequals h.name (Value.beginsValue_of_imp h.mode hc), Option.bind_some]
  dsimp only
  rw [← List.cons_append, ← hcs, readValue_append hending h.toIsSound hrest, Option.map_some,
    String.ofList_toList, Value.written]

end ReadBack

theorem toList_renderProperties {newline : String} {indent : Int} {inline : Bool} {vs : ValueList}
    (hne : vs ≠ []) :
    (renderProperties newline indent inline vs).toList =
      (propertyFrame newline indent inline).write (vs.map fun v => v.assignment.toList) := by
  have hitems : vs.map Value.assignment ≠ [] := by simpa using hne
  have hbracketed := Frame.toList_bracketed '[' ']' (by decide) newline indent inline hitems
  rw [List.map_map] at hbracketed
  exact hbracketed

theorem readProperties_append {metadata : Bool} {newline : String} {indent : Int} {inline : Bool}
    {vs : ValueList} (hne : vs ≠ []) (h : ∀ v ∈ vs, v.IsReadable metadata) (rest : List Char) :
    readProperties metadata newline indent inline
        ((renderProperties newline indent inline vs).toList ++ rest) =
      some (vs.map Value.written, rest) := by
  have hending : ¬IsLiteralChar (propertyFrame newline indent inline).ending := by
    change ¬IsLiteralChar ']'
    decide
  rw [toList_renderProperties hne, readProperties]
  exact Frame.read_write hne
    (fun v hv rest hrest => Frame.readAssignment_append hending (h v hv) hrest) rest

/-- Of sound values whose names hold no equals sign, the names and the values as they are written
are read back, and what follows the list is left. So two lists with something behind them have one
text only if they hold the same and the same stands behind them. -/
theorem properties_read_back (newline : String) (indent : Int) (inline : Bool) {vs : ValueList}
    (hne : vs ≠ []) (h : ∀ v ∈ vs, v.IsSound ∧ '=' ∉ v.name.toList) :
    (∀ rest, readProperties false newline indent inline
        ((renderProperties newline indent inline vs).toList ++ rest) =
      some (vs.map Value.written, rest)) ∧
    ∀ ws : ValueList, ws ≠ [] → (∀ w ∈ ws, w.IsSound ∧ '=' ∉ w.name.toList) → ∀ r s : String,
      renderProperties newline indent inline vs ++ r =
          renderProperties newline indent inline ws ++ s →
        vs.map Value.written = ws.map Value.written ∧ r = s := by
  have hread : ∀ us : ValueList, us ≠ [] → (∀ u ∈ us, u.IsSound ∧ '=' ∉ u.name.toList) →
      ∀ rest, readProperties false newline indent inline
          ((renderProperties newline indent inline us).toList ++ rest) =
        some (us.map Value.written, rest) :=
    fun us hus hall => readProperties_append hus fun u hu => (hall u hu).1.isReadable (hall u hu).2
  refine ⟨hread vs hne h, fun ws hws hsound r s heq => ?_⟩
  have hvs := hread vs hne h r.toList
  rw [← String.toList_append, heq, String.toList_append, hread ws hws hsound s.toList] at hvs
  simp only [Option.some.injEq, Prod.mk.injEq, String.toList_inj] at hvs
  exact ⟨hvs.1.symm, hvs.2.symm⟩

example : readProperties false "\n" 0 true "[ a=1, b=\"x, ]\" ] and more".toList =
    some ([("a", "1"), ("b", "\"x, ]\"")], " and more".toList) := by decide

/-- Values with much in them that lists are made of. -/
def remarks : ValueList :=
  [{ name := "remark", raw := "a=1, \"b\\\" ]\r\n  ]" },
    { name := "level", raw := "3,50", kind := .decimal },
    { name := "on", raw := " TRUE", kind := .bool, metadata := true },
    { name := "port", raw := "-8", kind := .int }]

theorem properties_read_back_of_remarks :
    remarks.map Value.written =
      [("remark", "\"a=1, \\\"b\\\\\\\" ]\r\n  ]\""), ("level", "3.50"), ("on", "\"true\""),
        ("port", "-8")] ∧
    (∀ rest, readProperties false "\r\n" 2 false
        ((renderProperties "\r\n" 2 false remarks).toList ++ rest) =
      some (remarks.map Value.written, rest)) ∧
    ∀ ws : ValueList, ws ≠ [] → (∀ w ∈ ws, w.IsSound ∧ '=' ∉ w.name.toList) → ∀ r s : String,
      renderProperties "\r\n" 2 false remarks ++ r = renderProperties "\r\n" 2 false ws ++ s →
        remarks.map Value.written = ws.map Value.written ∧ r = s := by
  have hsound : ∀ v ∈ remarks, v.IsSound ∧ '=' ∉ v.name.toList := by
    have hall : ∀ v ∈ remarks, (v.kind ≠ .unknown ∧ v.fault? = none) ∧ '=' ∉ v.name.toList := by
      decide
    exact fun v hv => ⟨⟨(hall v hv).1.1, (hall v hv).1.2⟩, (hall v hv).2⟩
  exact ⟨by decide, properties_read_back "\r\n" 2 false (List.cons_ne_nil _ _) hsound⟩

end HomeCatalog
