import HomeCatalog.Proofs.Value.Inference
import HomeCatalog.Record
import Mathlib.Data.List.Basic

/-!
# Property definitions

A definition on one line is a kind, blanks, a name, an equals sign and a text, where blanks at
either end do not count (`Property.Definition`). No character of a kind is a blank, and no character
of a name is a blank or an equals sign, so the characters tell where each part ends: they have one
reading (`Definition.eq_of_chars_eq`). The reader takes each part as far as it goes, and reads
exactly the definitions (`ofChars?_eq_some_iff`, `definition_of_ofDefinition`).
-/

namespace HomeCatalog

namespace Text

/-- No range of the one lies over one of the other. -/
def Ranges.areApart (rs rs' : Ranges) : Bool :=
  rs.all fun r => rs'.all fun r' => r.2.blt r'.1 || r'.2.blt r.1

theorem Ranges.has_eq_false_of_areApart {rs rs' : Ranges} (hapart : rs.areApart rs' = true)
    {c : Char} (h : rs.has c = true) : rs'.has c = false := by
  rw [← Bool.not_eq_true, Ranges.has_iff]
  rintro ⟨r', hr', hfirst', hlast'⟩
  obtain ⟨r, hr, hfirst, hlast⟩ := Ranges.has_iff.1 h
  have hpair := List.all_eq_true.1 (List.all_eq_true.1 hapart r hr) r' hr'
  rw [Bool.or_eq_true, Nat.blt_eq, Nat.blt_eq] at hpair
  omega

theorem isWordChar_of_isBlank {c : Char} (h : isBlank c = true) : isWordChar c = false := by
  refine Ranges.has_eq_false_of_areApart ?_ h
  decide +kernel

/-- Blanks are taken away at both ends, up to the first characters that are none. -/
theorem stripChars_append {before cs after : List Char} (hbefore : ∀ c ∈ before, isBlank c = true)
    (hafter : ∀ c ∈ after, isBlank c = true) (hne : cs ≠ [])
    (hhead : ∀ c ∈ cs.head?, isBlank c = false) (hlast : ∀ c ∈ cs.getLast?, isBlank c = false) :
    stripChars (before ++ cs ++ after) = cs := by
  have hstart : (before ++ cs ++ after).dropWhile isBlank = cs ++ after := by
    rw [List.append_assoc]
    apply dropWhile_append_stop hbefore
    rw [List.head?_append_of_ne_nil _ hne]
    exact hhead
  have hend : (after.reverse ++ cs.reverse).dropWhile isBlank = cs.reverse := by
    apply dropWhile_append_stop
    · intro c hc
      exact hafter c (List.mem_reverse.1 hc)
    · rw [List.head?_reverse]
      exact hlast
  rw [stripChars, hstart, stripEnd, List.reverse_append, hend, List.reverse_reverse]

end Text

namespace Property

/-! ## The parts of a definition -/

/-- A property definition in its parts, of which only the text may be empty or hold anything. -/
structure Definition where
  kind : List Char
  blanks : List Char
  name : List Char
  raw : List Char
  kind_ne_nil : kind ≠ []
  kindChar_of_mem : ∀ c ∈ kind, Text.isWordChar c = true ∨ c = '.' ∨ c = '[' ∨ c = ']'
  blanks_ne_nil : blanks ≠ []
  isBlank_of_mem : ∀ c ∈ blanks, Text.isBlank c = true
  name_ne_nil : name ≠ []
  nameChar_of_mem : ∀ c ∈ name, c ≠ '=' ∧ Text.isBlank c = false

theorem isKindChar_iff {c : Char} :
    isKindChar c = true ↔ Text.isWordChar c = true ∨ c = '.' ∨ c = '[' ∨ c = ']' := by
  simp [isKindChar, or_assoc]

theorem isNameChar_iff {c : Char} : isNameChar c = true ↔ c ≠ '=' ∧ Text.isBlank c = false := by
  simp [isNameChar]

theorem isKindChar_of_isBlank {c : Char} (h : Text.isBlank c = true) : isKindChar c = false := by
  rw [← Bool.not_eq_true, isKindChar_iff, Text.isWordChar_of_isBlank h]
  rintro (hword | rfl | rfl | rfl)
  · cases hword
  all_goals exact absurd h (by decide)

namespace Definition

/-- The definition as it is written. -/
def chars (d : Definition) : List Char :=
  d.kind ++ d.blanks ++ d.name ++ '=' :: d.raw

/-- The property that is defined. -/
def property (d : Definition) : Property where
  name := String.ofList d.name
  declaredKind := String.ofList d.kind
  raw := String.ofList d.raw

variable (d : Definition)

/-! ## Where the parts end -/

theorem chars_eq : d.chars = d.kind ++ (d.blanks ++ (d.name ++ '=' :: d.raw)) := by
  simp [chars]

theorem isKindChar_of_mem : ∀ c ∈ d.kind, isKindChar c = true :=
  fun c hc => isKindChar_iff.2 (d.kindChar_of_mem c hc)

theorem isNameChar_of_mem : ∀ c ∈ d.name, isNameChar c = true :=
  fun c hc => isNameChar_iff.2 (d.nameChar_of_mem c hc)

theorem head?_behind_kind :
    ∀ c ∈ (d.blanks ++ (d.name ++ '=' :: d.raw)).head?, isKindChar c = false := by
  intro c hc
  rw [List.head?_append_of_ne_nil _ d.blanks_ne_nil] at hc
  exact isKindChar_of_isBlank (d.isBlank_of_mem c (List.mem_of_head? hc))

theorem head?_behind_blanks : ∀ c ∈ (d.name ++ '=' :: d.raw).head?, Text.isBlank c = false := by
  intro c hc
  rw [List.head?_append_of_ne_nil _ d.name_ne_nil] at hc
  exact (d.nameChar_of_mem c (List.mem_of_head? hc)).2

theorem head?_behind_name : ∀ c ∈ ('=' :: d.raw).head?, isNameChar c = false := by
  rintro c ⟨⟩
  rfl

theorem ofChars?_chars : ofChars? d.chars = some d.property := by
  have hkind := d.isKindChar_of_mem
  have hname := d.isNameChar_of_mem
  rw [ofChars?, d.chars_eq, takeWhile_append_stop hkind d.head?_behind_kind,
    dropWhile_append_stop hkind d.head?_behind_kind,
    takeWhile_append_stop d.isBlank_of_mem d.head?_behind_blanks,
    dropWhile_append_stop d.isBlank_of_mem d.head?_behind_blanks,
    takeWhile_append_stop hname d.head?_behind_name,
    dropWhile_append_stop hname d.head?_behind_name]
  simp [d.kind_ne_nil, d.blanks_ne_nil, d.name_ne_nil, property]

/-- A definition has one reading. -/
theorem eq_of_chars_eq {d e : Definition} (h : d.chars = e.chars) : d = e := by
  have hproperty : d.property = e.property := by
    apply Option.some.inj
    rw [← d.ofChars?_chars, h, e.ofChars?_chars]
  -- The property tells every part but the blanks, and these are what is left between two of them.
  simp only [property, Property.mk.injEq, String.ofList_inj] at hproperty
  obtain ⟨hname, hkind, hraw⟩ := hproperty
  have hblanks : d.blanks = e.blanks := by
    rw [chars_eq, chars_eq, hkind, hname, hraw] at h
    exact List.append_cancel_right (List.append_cancel_left h)
  cases d
  cases e
  simp only at hname hkind hraw hblanks
  subst hname hkind hraw hblanks
  rfl

end Definition

/-! ## What is read -/

theorem exists_definition_of_ofChars? {cs : List Char} {p : Property} (h : ofChars? cs = some p) :
    ∃ d : Definition, d.chars = cs ∧ d.property = p := by
  unfold ofChars? at h
  dsimp only at h
  split at h
  · next raw hraw =>
    split at h
    · cases h
    · next hne =>
      simp only [Bool.or_eq_true, List.isEmpty_iff, not_or] at hne
      obtain ⟨⟨hkind, hblanks⟩, hname⟩ := hne
      -- what is taken has the characters of its part, whatever comes behind
      refine ⟨{
        kind := cs.takeWhile isKindChar
        blanks := (cs.dropWhile isKindChar).takeWhile Text.isBlank
        name := ((cs.dropWhile isKindChar).dropWhile Text.isBlank).takeWhile isNameChar
        raw := raw
        kind_ne_nil := hkind
        kindChar_of_mem := fun c hc => isKindChar_iff.1 (List.mem_takeWhile_imp hc)
        blanks_ne_nil := hblanks
        isBlank_of_mem := fun c hc => List.mem_takeWhile_imp hc
        name_ne_nil := hname
        nameChar_of_mem := fun c hc => isNameChar_iff.1 (List.mem_takeWhile_imp hc) },
        ?_, Option.some.inj h⟩
      rw [Definition.chars_eq, ← hraw, List.takeWhile_append_dropWhile,
        List.takeWhile_append_dropWhile, List.takeWhile_append_dropWhile]
  · cases h

theorem ofChars?_eq_some_iff {cs : List Char} {p : Property} :
    ofChars? cs = some p ↔ ∃ d : Definition, d.chars = cs ∧ d.property = p := by
  constructor
  · exact exists_definition_of_ofChars?
  · rintro ⟨d, rfl, rfl⟩
    exact d.ofChars?_chars

theorem ofDefinition_eq_ok_iff {s : String} {p : Property} :
    ofDefinition s = .ok p ↔
      ∃ d : Definition, d.chars = (Text.strip s).toList ∧ d.property = p := by
  rw [Text.toList_strip, ← ofChars?_eq_some_iff, ofDefinition]
  cases ofChars? (Text.stripChars s.toList) with
  | none => exact iff_of_false nofun nofun
  | some q => simp

theorem ofDefinition_eq_error_iff {s : String} :
    ofDefinition s = .error ⟨s⟩ ↔ ¬ ∃ d : Definition, d.chars = (Text.strip s).toList := by
  have hread : (∃ d : Definition, d.chars = (Text.strip s).toList) ↔
      ∃ p, ofDefinition s = .ok p := by
    simp only [ofDefinition_eq_ok_iff]
    constructor
    · rintro ⟨d, hd⟩
      exact ⟨_, d, hd, rfl⟩
    · rintro ⟨-, d, hd, -⟩
      exact ⟨d, hd⟩
  rw [hread, ofDefinition]
  cases ofChars? (Text.stripChars s.toList) with
  | none => simp
  | some q => simp

/-- Blanks around a definition are taken away and nothing else, unless its text ends in a blank. -/
theorem Definition.stripChars_chars (d : Definition) {before after : List Char}
    (hbefore : ∀ c ∈ before, Text.isBlank c = true) (hafter : ∀ c ∈ after, Text.isBlank c = true)
    (hraw : ∀ c ∈ d.raw.getLast?, Text.isBlank c = false) :
    Text.stripChars (before ++ d.chars ++ after) = d.chars := by
  have hhead : ∀ c ∈ d.chars.head?, Text.isBlank c = false := by
    intro c hc
    rw [d.chars_eq, List.head?_append_of_ne_nil _ d.kind_ne_nil] at hc
    by_contra hblank
    have hkind := d.isKindChar_of_mem c (List.mem_of_head? hc)
    rw [isKindChar_of_isBlank (Bool.eq_true_of_not_eq_false hblank)] at hkind
    cases hkind
  have hlast : ∀ c ∈ d.chars.getLast?, Text.isBlank c = false := by
    intro c hc
    rw [Definition.chars, List.getLast?_append_cons] at hc
    -- behind the equals sign there may be no text, and then the sign is the last character
    cases hr : d.raw with
    | nil =>
      rw [hr] at hc
      cases hc
      rfl
    | cons x xs =>
      rw [hr, List.getLast?_cons_cons] at hc
      exact hraw c (hr ▸ hc)
  refine Text.stripChars_append hbefore hafter ?_ hhead hlast
  simp [Definition.chars]

/-- A text is read exactly if it is a definition, with the one reading that it has, and every
definition is read back whose text does not end in a blank. -/
theorem definition_of_ofDefinition :
    (∀ s p, ofDefinition s = .ok p ↔
      ∃ d : Definition, d.chars = (Text.strip s).toList ∧ d.property = p) ∧
    (∀ s, ofDefinition s = .error ⟨s⟩ ↔ ¬ ∃ d : Definition, d.chars = (Text.strip s).toList) ∧
    (∀ d e : Definition, d.chars = e.chars → d = e) ∧
    ∀ (d : Definition) (before after : List Char), (∀ c ∈ before, Text.isBlank c = true) →
      (∀ c ∈ after, Text.isBlank c = true) → (∀ c ∈ d.raw.getLast?, Text.isBlank c = false) →
      ofDefinition (String.ofList (before ++ d.chars ++ after)) = .ok d.property := by
  refine ⟨fun _ _ => ofDefinition_eq_ok_iff, fun _ => ofDefinition_eq_error_iff,
    fun _ _ => Definition.eq_of_chars_eq, fun d before after hbefore hafter hraw => ?_⟩
  refine ofDefinition_eq_ok_iff.2 ⟨d, ?_, rfl⟩
  rw [Text.toList_strip, String.toList_ofList, d.stripChars_chars hbefore hafter hraw]

/-- A kind with brackets, and a text with a line end, blanks and an equals sign in it. -/
def listDefinition : Definition where
  kind := "System.List[]".toList
  blanks := [' ', '\t', '\u2003']
  name := "a:b".toList
  raw := "x\n y = z".toList
  kind_ne_nil := by decide
  kindChar_of_mem c hc := by
    have hkind : "System.List[]".toList.all isKindChar = true := by decide +kernel
    exact isKindChar_iff.1 (List.all_eq_true.1 hkind c hc)
  blanks_ne_nil := by decide
  isBlank_of_mem := List.all_eq_true.1 (by decide)
  name_ne_nil := by decide
  nameChar_of_mem c hc := by
    have hname : "a:b".toList.all isNameChar = true := by decide
    exact isNameChar_iff.1 (List.all_eq_true.1 hname c hc)

/-- It is read, with blanks around it. -/
theorem definition_of_listText :
    (∀ c ∈ ['\u3000', '\n'], Text.isBlank c = true) ∧ (∀ c ∈ ['\r', '\n'], Text.isBlank c = true) ∧
      (∀ c ∈ listDefinition.raw.getLast?, Text.isBlank c = false) ∧
      ofDefinition "\u3000\nSystem.List[] \t\u2003a:b=x\n y = z\r\n" =
        .ok ⟨"a:b", "System.List[]", "x\n y = z"⟩ := by
  have hbefore : ∀ c ∈ ['\u3000', '\n'], Text.isBlank c = true := List.all_eq_true.1 (by decide)
  have hafter : ∀ c ∈ ['\r', '\n'], Text.isBlank c = true := List.all_eq_true.1 (by decide)
  have hraw : ∀ c ∈ listDefinition.raw.getLast?, Text.isBlank c = false := by
    rintro c ⟨⟩
    decide
  have htext : String.ofList (['\u3000', '\n'] ++ listDefinition.chars ++ ['\r', '\n']) =
      "\u3000\nSystem.List[] \t\u2003a:b=x\n y = z\r\n" := by
    decide
  refine ⟨hbefore, hafter, hraw, ?_⟩
  rw [← htext]
  exact definition_of_ofDefinition.2.2.2 listDefinition _ _ hbefore hafter hraw

end Property

end HomeCatalog
