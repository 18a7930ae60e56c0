import HomeCatalog.Command.Arguments
import HomeCatalog.Proofs.Text.Split

/-!
# Spelling a conversion

How a conversion is spelled by arguments, apart from how they are read: `Spells` takes a list of
arguments to its parts, which are directories and switches with values, and `Resolves` tells what
the parts ask for. No argument can be taken in two ways, so a list spells one conversion at most
(`Asks.unique`).
-/

namespace HomeCatalog.Command

/-! ## Parts -/

/-- A part of the arguments of a command. A switch that takes no value has an empty one. -/
inductive Part
  | directory (s : String)
  | switch (s : Switch) (value : String)
deriving DecidableEq, Repr

namespace Part

/-- The directory that a part names. -/
def directory? : Part → Option String
  | directory s => some s
  | switch _ _ => none

/-- The switch of a part, with its value. -/
def switch? : Part → Option (Switch × String)
  | directory _ => none
  | switch s value => some (s, value)

end Part

/-- The values that parts give a switch, in order. -/
def valuesOf (s : Switch) (parts : List Part) : List String :=
  (parts.filterMap Part.switch?).filterMap fun p => if p.1 = s then some p.2 else none

/-! ## Spelling -/

/-- The text is a name of the switch, or the beginning, with its two dashes, of this name alone. -/
inductive Names (names : SwitchNames) (s : Switch) (t : String) : Prop
  | whole (h : (t, s) ∈ names)
  | beginning (n : String) (hdashes : t.startsWith "--" = true)
    (h : ∀ p, p ∈ names ∧ p.1.startsWith t = true ↔ p = (n, s))

/-- The argument looks like a switch: it begins a name, perhaps up to an equals sign, or its first
two characters are a name. -/
inductive Resembles (names : SwitchNames) (arg : String) : Prop
  | beginning {t : String} (harg : arg = t ∨ ∃ v, arg = t ++ "=" ++ v)
    (hdashes : t.startsWith "--" = true) {p : String × Switch} (hp : p ∈ names)
    (h : p.1.startsWith t = true)
  | letter (hdashes : arg.startsWith "--" = false) {p : String × Switch} (hp : p ∈ names)
    (h : p.1.toList = arg.toList.take 2)

/-- The argument stands for itself. -/
inductive Plain (names : SwitchNames) (arg : String) : Prop
  | undashed (h : arg.startsWith "-" = false)
  | short (h : arg.length = 1)
  | number (h : (negativeNumber.captures? arg).isSome = true) (hno : ¬Resembles names arg)
  | blank (h : arg.contains ' ' = true) (hno : ¬Resembles names arg)

/-- The arguments spell the parts. -/
inductive Spells (names : SwitchNames) : List String → List Part → Prop
  | nil : Spells names [] []
  /-- All that follows two dashes stands for itself. -/
  | dashes (rest : List String) : Spells names ("--" :: rest) (rest.map .directory)
  | directory {s : String} (hs : Plain names s) {rest : List String} {parts : List Part}
    (h : Spells names rest parts) : Spells names (s :: rest) (.directory s :: parts)
  /-- A switch without a value. -/
  | flag {s : Switch} {t : String} (ht : Names names s t) (hs : s.takesValue = false)
    {rest : List String} {parts : List Part} (h : Spells names rest parts) :
    Spells names (t :: rest) (.switch s "" :: parts)
  /-- A switch with its value as the next argument. -/
  | apart {s : Switch} {t v : String} (ht : Names names s t) (hs : s.takesValue = true)
    (hv : Plain names v) {rest : List String} {parts : List Part} (h : Spells names rest parts) :
    Spells names (t :: v :: rest) (.switch s v :: parts)
  /-- A switch with its value after an equals sign. -/
  | joined {s : Switch} {t v arg : String} (ht : Names names s t) (hs : s.takesValue = true)
    (harg : arg = t ++ "=" ++ v) {rest : List String} {parts : List Part}
    (h : Spells names rest parts) : Spells names (arg :: rest) (.switch s v :: parts)

/-- What the parts ask for: at most one directory, the last value of each switch, and the switches
without values that are there. -/
structure Resolves (parts : List Part) (a : ConvertArguments) : Prop where
  directory : parts.filterMap Part.directory? = [] ∧ a.directory = "." ∨
    parts.filterMap Part.directory? = [a.directory]
  config : a.config = (valuesOf .config parts).getLast?
  input : a.input = (valuesOf .input parts).getLast?
  output : a.output = (valuesOf .output parts).getLast?
  filter : a.filter = (valuesOf .filter parts).getLast?
  includeDefaultEndpoints :
    a.includeDefaultEndpoints = true ↔ valuesOf .includeDefaultEndpoints parts ≠ []
  verbose : a.verbose = true ↔ valuesOf .verbose parts ≠ []

/-- The arguments ask for a conversion, and for this one. -/
def Asks (args : List String) (a : ConvertArguments) : Prop :=
  ∃ rest parts, args = "convert" :: rest ∧ Spells convertNames rest parts ∧ Resolves parts a

/-! ## Names -/

/-- A name has two dashes, or one and a letter; none has an equals sign. -/
theorem forall_convertNames : ∀ p ∈ convertNames, "-".toList <+: p.1.toList ∧
    '=' ∉ p.1.toList ∧ ("--".toList <+: p.1.toList ∨ p.1.toList.length = 2) ∧ p.1 ≠ "--" := by
  decide

theorem eq_of_mem_convertNames :
    ∀ p ∈ convertNames, ∀ q ∈ convertNames, p.1 = q.1 → p = q := by
  decide

namespace Names

variable {s s' : Switch} {t arg : String} (h : Names convertNames s t)

include h

theorem exists_begins : ∃ p ∈ convertNames, t.toList <+: p.1.toList := by
  cases h with
  | whole h => exact ⟨_, h, List.prefix_rfl⟩
  | beginning n _ h =>
    obtain ⟨hp, hbegins⟩ := (h (n, s)).2 rfl
    exact ⟨_, hp, String.startsWith_string_iff.1 hbegins⟩

theorem not_mem_equals : '=' ∉ t.toList := by
  obtain ⟨p, hp, hbegins⟩ := h.exists_begins
  exact fun hmem => (forall_convertNames p hp).2.1 (hbegins.subset hmem)

theorem dashes_or_letter : "--".toList <+: t.toList ∨
    "-".toList <+: t.toList ∧ t.toList.length = 2 ∧ (t, s) ∈ convertNames := by
  cases h with
  | whole h =>
    obtain ⟨hdash, -, hdashes | hlength, -⟩ := forall_convertNames _ h
    · exact .inl hdashes
    · exact .inr ⟨hdash, hlength, h⟩
  | beginning _ hdashes _ => exact .inl (String.startsWith_string_iff.1 hdashes)

/-- The name is that of no other switch. -/
theorem unique (h' : Names convertNames s' t) : s = s' := by
  have hrefl : t.startsWith t = true := String.startsWith_string_iff.2 List.prefix_rfl
  cases h with
  | whole h =>
    cases h' with
    | whole h' => exact congrArg Prod.snd (eq_of_mem_convertNames _ h _ h' rfl)
    | beginning _ _ h' => exact congrArg Prod.snd ((h' (t, s)).1 ⟨h, hrefl⟩)
  | beginning n _ h =>
    cases h' with
    | whole h' => exact (congrArg Prod.snd ((h (t, s')).1 ⟨h', hrefl⟩)).symm
    | beginning _ _ h' => exact congrArg Prod.snd ((h' (n, s)).1 ((h (n, s)).2 rfl))

variable (harg : arg = t ∨ ∃ v, arg = t ++ "=" ++ v)

omit h in
include harg in
theorem prefix_of_eq : t.toList <+: arg.toList := by
  obtain rfl | ⟨v, rfl⟩ := harg
  · exact List.prefix_rfl
  · simp [List.append_assoc]

include harg

theorem resembles : Resembles convertNames arg := by
  obtain ⟨p, hp, hbegins⟩ := h.exists_begins
  obtain hdashes | ⟨-, hlength, hmem⟩ := h.dashes_or_letter
  · exact .beginning harg (String.startsWith_string_iff.2 hdashes) hp
      (String.startsWith_string_iff.2 hbegins)
  · have htake : t.toList = arg.toList.take 2 := by
      rw [← hlength]
      exact List.prefix_iff_eq_take.1 (prefix_of_eq harg)
    refine .letter (Bool.eq_false_iff.2 fun hdashes => ?_) hmem htake
    -- Two dashes would be the whole name, and they are none.
    have heq : "--".toList = t.toList := by
      rw [htake]
      exact List.prefix_iff_eq_take.1 (String.startsWith_string_iff.1 hdashes)
    exact (forall_convertNames _ hmem).2.2.2 (String.toList_inj.1 heq).symm

theorem not_plain : ¬Plain convertNames arg := by
  have hbegins := prefix_of_eq harg
  intro hplain
  cases hplain with
  | undashed hnone =>
    have hdash : "-".toList <+: t.toList := by
      obtain hdashes | ⟨hdash, -, -⟩ := h.dashes_or_letter
      · exact List.IsPrefix.trans (by decide) hdashes
      · exact hdash
    rw [String.startsWith_string_iff.2 (hdash.trans hbegins)] at hnone
    cases hnone
  | short hshort =>
    have hlength : 2 ≤ t.toList.length := by
      obtain hdashes | ⟨-, hlength, -⟩ := h.dashes_or_letter
      · exact hdashes.length_le
      · exact Nat.le_of_eq hlength.symm
    have hle := hbegins.length_le
    rw [← String.length_toList] at hshort
    omega
  | number _ hno => exact hno (h.resembles harg)
  | blank _ hno => exact hno (h.resembles harg)

theorem ne_dashes : arg ≠ "--" := by
  rintro rfl
  obtain rfl | ⟨v, hv⟩ := harg
  · cases h with
    | whole h => exact (forall_convertNames _ h).2.2.2 rfl
    | beginning n _ h =>
      -- Every long name begins so.
      have hhelp := (h ("--help", .help)).1 (by decide +kernel)
      have hconfig := (h ("--config", .config)).1 (by decide +kernel)
      exact absurd (hhelp.trans hconfig.symm) (by decide)
  · have hmem : '=' ∈ "--".toList := by
      rw [hv]
      simp
    revert hmem
    decide

end Names

theorem not_plain_dashes : ¬Plain convertNames "--" := by
  intro h
  cases h with
  | undashed h => revert h; decide +kernel
  | short h => revert h; decide
  | number h => revert h; decide +kernel
  | blank h =>
    rw [String.contains_char_eq] at h
    revert h
    decide

/-! ## One conversion -/

theorem equals_inj {t t' v v' : String} (ht : '=' ∉ t.toList) (ht' : '=' ∉ t'.toList)
    (h : t ++ "=" ++ v = t' ++ "=" ++ v') : t = t' ∧ v = v' := by
  have hpieces : ∀ {s w : String}, '=' ∉ s.toList →
      Text.pieces '=' (s ++ "=" ++ w).toList = s.toList :: Text.pieces '=' w.toList := by
    intro s w hs
    rw [← Text.pieces_append hs]
    simp
  have hboth := congrArg (fun s => Text.pieces '=' s.toList) h
  rw [hpieces ht, hpieces ht', List.cons.injEq] at hboth
  have hrest := congrArg (Text.joined '=') hboth.2
  rw [Text.joined_pieces, Text.joined_pieces] at hrest
  exact ⟨String.toList_inj.1 hboth.1, String.toList_inj.1 hrest⟩

/-- Arguments spell one list of parts at most. -/
theorem Spells.unique {args : List String} {parts parts' : List Part}
    (h : Spells convertNames args parts) (h' : Spells convertNames args parts') :
    parts = parts' := by
  induction h generalizing parts' with
  | nil =>
    cases h'
    rfl
  | dashes rest =>
    cases h' with
    | dashes => rfl
    | directory hs => exact absurd hs not_plain_dashes
    | flag ht => exact absurd rfl (ht.ne_dashes (.inl rfl))
    | apart ht => exact absurd rfl (ht.ne_dashes (.inl rfl))
    | joined ht _ harg => exact absurd rfl (ht.ne_dashes (.inr ⟨_, harg⟩))
  | directory hs _ ih =>
    cases h' with
    | dashes => exact absurd hs not_plain_dashes
    | directory _ h' => rw [ih h']
    | flag ht => exact absurd hs (ht.not_plain (.inl rfl))
    | apart ht => exact absurd hs (ht.not_plain (.inl rfl))
    | joined ht _ harg => exact absurd hs (ht.not_plain (.inr ⟨_, harg⟩))
  | flag ht hs _ ih =>
    cases h' with
    | dashes => exact absurd rfl (ht.ne_dashes (.inl rfl))
    | directory hs' => exact absurd hs' (ht.not_plain (.inl rfl))
    | flag ht' _ h' => rw [ht.unique ht', ih h']
    | apart ht' hs' =>
      rw [ht.unique ht', hs'] at hs
      cases hs
    | joined _ _ harg => exact absurd (by simp [harg]) ht.not_mem_equals
  | apart ht hs _ _ ih =>
    cases h' with
    | dashes => exact absurd rfl (ht.ne_dashes (.inl rfl))
    | directory hs' => exact absurd hs' (ht.not_plain (.inl rfl))
    | flag ht' hs' =>
      rw [ht.unique ht', hs'] at hs
      cases hs
    | apart ht' _ _ h' => rw [ht.unique ht', ih h']
    | joined _ _ harg => exact absurd (by simp [harg]) ht.not_mem_equals
  | joined ht hs harg _ ih =>
    cases h' with
    | dashes => exact absurd rfl (ht.ne_dashes (.inr ⟨_, harg⟩))
    | directory hs' => exact absurd hs' (ht.not_plain (.inr ⟨_, harg⟩))
    | flag ht' => exact absurd (by simp [harg]) ht'.not_mem_equals
    | apart ht' => exact absurd (by simp [harg]) ht'.not_mem_equals
    | joined ht' _ harg' h' =>
      obtain ⟨rfl, rfl⟩ := equals_inj ht.not_mem_equals ht'.not_mem_equals (harg.symm.trans harg')
      rw [ht.unique ht', ih h']

theorem Resolves.unique {parts : List Part} {a a' : ConvertArguments} (h : Resolves parts a)
    (h' : Resolves parts a') : a = a' := by
  have hdirectory : a.directory = a'.directory := by
    obtain ⟨hnone, ha⟩ | hone := h.directory
    · obtain ⟨-, ha'⟩ | hone' := h'.directory
      · rw [ha, ha']
      · cases hnone.symm.trans hone'
    · obtain ⟨hnone', -⟩ | hone' := h'.directory
      · cases hnone'.symm.trans hone
      · exact List.singleton_inj.1 (hone.symm.trans hone')
  have hdefaults : a.includeDefaultEndpoints = a'.includeDefaultEndpoints :=
    Bool.eq_iff_iff.2 (h.includeDefaultEndpoints.trans h'.includeDefaultEndpoints.symm)
  have hverbose : a.verbose = a'.verbose := Bool.eq_iff_iff.2 (h.verbose.trans h'.verbose.symm)
  cases a
  cases a'
  rw [ConvertArguments.mk.injEq]
  exact ⟨hdirectory, h.config.trans h'.config.symm, h.input.trans h'.input.symm,
    h.output.trans h'.output.symm, h.filter.trans h'.filter.symm, hdefaults, hverbose⟩

/-- Arguments ask for one conversion at most. -/
theorem Asks.unique {args : List String} {a a' : ConvertArguments} (h : Asks args a)
    (h' : Asks args a') : a = a' := by
  obtain ⟨rest, parts, rfl, hparts, ha⟩ := h
  obtain ⟨rest', parts', hargs, hparts', ha'⟩ := h'
  obtain rfl := (List.cons.inj hargs).2
  obtain rfl := hparts.unique hparts'
  exact ha.unique ha'

end HomeCatalog.Command
