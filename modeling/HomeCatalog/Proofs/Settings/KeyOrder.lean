import HomeCatalog.Library.Own
import HomeCatalog.Proofs.Settings.Mapping
import HomeCatalog.Proofs.Yaml.Document

/-!
# The order of keys

Two mappings that differ in the order of their keys, at any depth, are both well-typed or neither
is, and make the same settings (`Settings.settings_of_mapping`). The types of namespaces are the one
field that is a mapping itself: they come in the order of their keys, and each namespace has one
type.
-/

namespace HomeCatalog

/-- What a list of distinct names holds under a name does not depend on its order. -/
theorem lookup_eq_of_perm {α β : Type} [BEq α] [LawfulBEq α] {ps qs : List (α × β)}
    (h : ps.Perm qs) (hnames : (ps.map Prod.fst).Nodup) (k : α) : ps.lookup k = qs.lookup k := by
  have hmem : ∀ {rs : List (α × β)} {b : β}, (rs.map Prod.fst).Nodup → (k, b) ∈ rs →
      rs.lookup k = some b := by
    intro rs b hnodup hb
    obtain ⟨before, after, rfl⟩ := List.append_of_mem hb
    refine List.lookup_eq_some_iff.2 ⟨before, after, rfl, fun p hp => ?_⟩
    rw [List.map_append, List.map_cons] at hnodup
    obtain ⟨-, -, hne⟩ := List.nodup_append.1 hnodup
    exact bne_iff_ne.2 (hne p.1 (List.mem_map_of_mem hp) k List.mem_cons_self).symm
  have hof : ∀ {rs : List (α × β)} {b : β}, rs.lookup k = some b → (k, b) ∈ rs := by
    intro rs b hb
    obtain ⟨before, after, rfl, -⟩ := List.lookup_eq_some_iff.1 hb
    exact List.mem_append_right _ List.mem_cons_self
  have hnames' : (qs.map Prod.fst).Nodup := (h.map Prod.fst).nodup_iff.1 hnames
  apply Option.ext
  intro b
  constructor
  · intro hb
    exact hmem hnames' (h.mem_iff.1 (hof hb))
  · intro hb
    exact hmem hnames (h.mem_iff.2 (hof hb))

namespace Yaml.Value

mutual

/-- The values differ in the order of keys only, at any depth of mappings in mappings. -/
inductive Reordered : Value → Value → Prop
  | same (v : Value) : Reordered v v
  | mapping {es fs gs : List (Value × Value)} (hperm : es.Perm fs)
    (hvalues : ReorderedValues fs gs) : Reordered (.mapping es) (.mapping gs)

/-- The keys are the same, in the same order; the values under them differ in the order of keys. -/
inductive ReorderedValues : List (Value × Value) → List (Value × Value) → Prop
  | nil : ReorderedValues [] []
  | cons (k : Value) {v w : Value} {fs gs : List (Value × Value)} (hvalue : Reordered v w)
    (hrest : ReorderedValues fs gs) : ReorderedValues ((k, v) :: fs) ((k, w) :: gs)

end

theorem ReorderedValues.forall₂ {fs gs : List (Value × Value)} (h : ReorderedValues fs gs) :
    List.Forall₂ (fun d e => d.1 = e.1 ∧ Reordered d.2 e.2) fs gs := by
  induction fs generalizing gs with
  | nil =>
    cases h
    exact .nil
  | cons d fs ih =>
    cases h with
    | cons k hvalue hrest => exact .cons ⟨rfl, hvalue⟩ (ih hrest)

/-- Whether the value is no mapping. -/
def isScalar : Value → Bool
  | mapping _ => false
  | _ => true

namespace Reordered

variable {v w : Value} {es gs : List (Value × Value)}

theorem eq_of_isScalar (h : Reordered v w) (hscalar : v.isScalar = true ∨ w.isScalar = true) :
    v = w := by
  cases h with
  | same => rfl
  | mapping => rcases hscalar with h | h <;> cases h

theorem exists_mapping (h : Reordered (.mapping es) w) : ∃ gs, w = .mapping gs := by
  cases h with
  | same => exact ⟨es, rfl⟩
  | mapping => exact ⟨_, rfl⟩

theorem exists_right (h : Reordered (.mapping es) (.mapping gs)) {d : Value × Value}
    (hd : d ∈ es) : ∃ e ∈ gs, d.1 = e.1 ∧ Reordered d.2 e.2 := by
  cases h with
  | same => exact ⟨d, hd, rfl, .same _⟩
  | mapping hperm hvalues => exact exists_right_of_mem hvalues.forall₂ (hperm.mem_iff.1 hd)

theorem exists_left (h : Reordered (.mapping es) (.mapping gs)) {e : Value × Value}
    (he : e ∈ gs) : ∃ d ∈ es, d.1 = e.1 ∧ Reordered d.2 e.2 := by
  cases h with
  | same => exact ⟨e, he, rfl, .same _⟩
  | mapping hperm hvalues =>
    obtain ⟨d, hd, hde⟩ := exists_left_of_mem hvalues.forall₂ he
    exact ⟨d, hperm.mem_iff.2 hd, hde⟩

/-- Where no value is a mapping, the entries themselves are in another order. -/
theorem perm (h : Reordered (.mapping es) (.mapping gs))
    (hscalar : ∀ d ∈ es, d.2.isScalar = true) : es.Perm gs := by
  cases h with
  | same => exact .refl _
  | @mapping _ fs _ hperm hvalues =>
    have hsame : List.Forall₂ Eq fs gs := by
      have hfs : ∀ d ∈ fs, d.2.isScalar = true := fun d hd => hscalar d (hperm.mem_iff.2 hd)
      refine ((List.forall₂_and_left _ _).2 ⟨hfs, hvalues.forall₂⟩).imp ?_
      rintro d e ⟨hd, hkey, hvalue⟩
      exact Prod.ext hkey (hvalue.eq_of_isScalar (.inl hd))
    rw [List.forall₂_eq_eq_eq] at hsame
    rwa [hsame] at hperm

end Reordered

end Yaml.Value

namespace Settings

/-- The settings are the same, and the types of namespaces may come in another order. -/
structure SameAs (s t : Settings) : Prop where
  others : { s with vendorTypes := t.vendorTypes } = t
  perm : s.vendorTypes.Perm t.vendorTypes
  lookup : ∀ name, s.vendorTypes.lookup name = t.vendorTypes.lookup name

section Reordered

variable {es gs : Entries} (h : (Yaml.Value.mapping es).Reordered (.mapping gs))

include h

theorem exists_gives_right {name : String} {v : Yaml.Value} (hv : Gives es name v) :
    ∃ w, Gives gs name w ∧ v.Reordered w := by
  obtain ⟨⟨k, w⟩, hw, hkey, hvalue⟩ := h.exists_right hv
  obtain rfl : .text name = k := hkey
  exact ⟨w, hw, hvalue⟩

theorem exists_gives_left {name : String} {w : Yaml.Value} (hw : Gives gs name w) :
    ∃ v, Gives es name v ∧ v.Reordered w := by
  obtain ⟨⟨k, v⟩, hv, hkey, hvalue⟩ := h.exists_left hw
  obtain rfl : k = .text name := hkey
  exact ⟨v, hv, hvalue⟩

theorem gives_of_isScalar {name : String} {v : Yaml.Value} (hscalar : v.isScalar = true) :
    Gives gs name v ↔ Gives es name v := by
  constructor
  · intro hv
    obtain ⟨w, hw, hvalue⟩ := exists_gives_left h hv
    rwa [← hvalue.eq_of_isScalar (.inr hscalar)]
  · intro hv
    obtain ⟨w, hw, hvalue⟩ := exists_gives_right h hv
    rwa [hvalue.eq_of_isScalar (.inl hscalar)]

theorem not_gives_of_reordered {name : String} (hnone : ∀ v, ¬Gives es name v) :
    ∀ w, ¬Gives gs name w := by
  intro w hw
  obtain ⟨v, hv, -⟩ := exists_gives_left h hw
  exact hnone v hv

theorem KnowsNames.reordered {known : List String} (hes : KnowsNames known es) :
    KnowsNames known gs := by
  intro e he
  obtain ⟨d, hd, hkey, -⟩ := h.exists_left he
  rw [← hkey]
  exact hes d hd

section Kind

variable {α : Type} {kind : α → Yaml.Value} (hkind : ∀ x, (kind x).isScalar = true) {name : String}

include hkind

theorem Admits.reordered (hes : Admits kind es name) : Admits kind gs name := by
  intro w hw
  obtain ⟨v, hv, hvalue⟩ := exists_gives_left h hw
  obtain rfl | ⟨x, rfl⟩ := hes v hv
  · exact .inl (hvalue.eq_of_isScalar (.inl rfl)).symm
  · exact .inr ⟨x, (hvalue.eq_of_isScalar (.inl (hkind x))).symm⟩

theorem Holds.reordered {default x : α} (hes : Holds kind es name default x) :
    Holds kind gs name default x := by
  obtain hgives | ⟨hnull, rfl⟩ := hes
  · exact .inl ((gives_of_isScalar h (hkind x)).2 hgives)
  · refine .inr ⟨fun w hw => ?_, rfl⟩
    obtain ⟨v, hv, hvalue⟩ := exists_gives_left h hw
    obtain rfl := hnull v hv
    exact (hvalue.eq_of_isScalar (.inl rfl)).symm

end Kind

theorem AdmitsSwitches.reordered (hes : AdmitsSwitches es) : AdmitsSwitches gs :=
  ⟨hes.1.reordered h, fun name hname => (hes.2 name hname).reordered h fun _ => rfl⟩

theorem HoldsSwitches.reordered {s : InlineSettings} (hes : HoldsSwitches es s) :
    HoldsSwitches gs s where
  containerProperties := hes.containerProperties.reordered h fun _ => rfl
  deviceProperties := hes.deviceProperties.reordered h fun _ => rfl
  endpointProperties := hes.endpointProperties.reordered h fun _ => rfl
  variableEntries := hes.variableEntries.reordered h fun _ => rfl

theorem AdmitsInline.reordered (hes : AdmitsInline es) : AdmitsInline gs := by
  intro w hw
  obtain ⟨v, hv, hvalue⟩ := exists_gives_left h hw
  obtain ⟨inner, rfl, hinner⟩ := hes v hv
  obtain ⟨inner', rfl⟩ := hvalue.exists_mapping
  exact ⟨inner', rfl, hinner.reordered hvalue⟩

theorem HoldsInline.reordered {s : InlineSettings} (hes : HoldsInline es s) :
    HoldsInline gs s := by
  obtain ⟨inner, hinner, hs⟩ | ⟨hnone, hs⟩ := hes
  · obtain ⟨w, hw, hvalue⟩ := exists_gives_right h hinner
    obtain ⟨inner', rfl⟩ := hvalue.exists_mapping
    exact .inl ⟨inner', hw, hs.reordered hvalue⟩
  · exact .inr ⟨not_gives_of_reordered h hnone, hs⟩

/-- Entries that are texts are the same entries in another order. -/
theorem exists_perm_textEntries {types : List (Letters × Letters)} (hes : es = textEntries types) :
    ∃ types', gs = textEntries types' ∧ types.Perm types' := by
  subst hes
  have hscalar : ∀ d ∈ textEntries types, d.2.isScalar = true := by
    intro d hd
    obtain ⟨p, -, rfl⟩ := List.mem_map.1 hd
    rfl
  have hperm := h.perm hscalar
  obtain ⟨types', rfl⟩ := exists_textEntries_iff.2 fun e he =>
    exists_textEntries_iff.1 ⟨types, rfl⟩ e (hperm.mem_iff.2 he)
  have hinjective : Function.Injective fun p : Letters × Letters =>
      (Yaml.Value.text p.1, Yaml.Value.text p.2) := by
    rintro ⟨k, i⟩ ⟨k', i'⟩ heq
    simpa using heq
  exact ⟨types', rfl, (List.map_perm_map_iff hinjective).1 hperm⟩

theorem AdmitsTypes.reordered (hes : AdmitsTypes es) : AdmitsTypes gs := by
  intro w hw
  obtain ⟨v, hv, hvalue⟩ := exists_gives_left h hw
  obtain rfl | ⟨inner, rfl, htexts⟩ := hes v hv
  · exact .inl (hvalue.eq_of_isScalar (.inl rfl)).symm
  · obtain ⟨inner', rfl⟩ := hvalue.exists_mapping
    obtain ⟨types, htypes⟩ := exists_textEntries_iff.2 htexts
    obtain ⟨types', htypes', -⟩ := exists_perm_textEntries hvalue htypes
    exact .inr ⟨inner', rfl, exists_textEntries_iff.1 ⟨types', htypes'⟩⟩

theorem HoldsTypes.reordered {types : List (Letters × Letters)} (hes : HoldsTypes es types) :
    ∃ types', HoldsTypes gs types' ∧ types.Perm types' := by
  obtain ⟨hnull, rfl⟩ | hgives | ⟨hnone, rfl⟩ := hes
  · exact ⟨[], .inl ⟨(gives_of_isScalar h rfl).2 hnull, rfl⟩, .nil⟩
  · obtain ⟨w, hw, hvalue⟩ := exists_gives_right h hgives
    obtain ⟨inner', rfl⟩ := hvalue.exists_mapping
    obtain ⟨types', rfl, hperm⟩ := exists_perm_textEntries hvalue rfl
    exact ⟨types', .inr (.inl hw), hperm⟩
  · exact ⟨_, .inr (.inr ⟨not_gives_of_reordered h hnone, rfl⟩), .refl _⟩

theorem WellTyped.reordered {named : Pattern.CharacterNames} (hes : WellTyped named es) :
    WellTyped named gs where
  known := hes.known.reordered h
  texts := fun name hname => (hes.texts name hname).reordered h fun _ => rfl
  nameFilter := fun t ht => hes.nameFilter t ((gives_of_isScalar h rfl).1 ht)
  includeDefaultEndpoints := hes.includeDefaultEndpoints.reordered h fun _ => rfl
  inline := hes.inline.reordered h
  vendorTypes := hes.vendorTypes.reordered h

end Reordered

/-- Every namespace has one type, because keys are distinct. -/
theorem nodup_of_holdsTypes {entries : Entries} (hentries : (Yaml.Value.mapping entries).Distinct)
    {types : List (Letters × Letters)} (h : HoldsTypes entries types) :
    (types.map Prod.fst).Nodup := by
  obtain ⟨-, rfl⟩ | hgives | ⟨-, rfl⟩ := h
  · exact List.nodup_nil
  · have hinner : (Yaml.Value.mapping (textEntries types)).Distinct := hentries.entries.2 _ hgives
    have hkeys := List.pairwise_map.1 hinner.entries.1
    refine List.pairwise_map.2 (hkeys.imp fun {p q} hne heq => ?_)
    exact hne p.1 rfl (congrArg Yaml.Value.text heq.symm)
  · decide

theorem Describes.reordered {es gs : Entries} (hes : (Yaml.Value.mapping es).Distinct)
    (h : (Yaml.Value.mapping es).Reordered (.mapping gs)) {s : Settings} (hs : Describes es s) :
    ∃ t, Describes gs t ∧ s.SameAs t := by
  obtain ⟨types, htypes, hperm⟩ := hs.vendorTypes.reordered h
  obtain ⟨expression, hexpression, hfilter⟩ := hs.nameFilter
  refine ⟨{ s with vendorTypes := types }, ?_, rfl, hperm, ?_⟩
  · exact ⟨hs.inputDirectory.reordered h fun _ => rfl, hs.outputDirectory.reordered h fun _ => rfl,
      hs.devicesFile.reordered h fun _ => rfl, hs.variablesFile.reordered h fun _ => rfl,
      ⟨expression, hexpression.reordered h fun _ => rfl, hfilter⟩,
      hs.includeDefaultEndpoints.reordered h fun _ => rfl, hs.inline.reordered h, htypes⟩
  · exact lookup_eq_of_perm hperm (nodup_of_holdsTypes hes hs.vendorTypes)

/-! ## Settings from texts -/

theorem ofText_of_mapping {lib : Library} {text : Letters} {entries : Entries}
    (h : lib.yaml text = .ok (.mapping entries)) (label : String) :
    ofText lib label text = ofEntries lib label entries := by
  rw [ofText, h]
  rfl

/-- A text of a mapping makes settings exactly if the mapping is well-typed. They are those of the
mapping, and the same whatever the order of the keys, also of those inside its fields. -/
theorem settings_of_mapping {lib : Library} (hlib : lib.yaml.Lawful) {text : Letters}
    {entries : Entries} (h : lib.yaml text = .ok (.mapping entries)) (label : String) :
    ((∃ s, ofText lib label text = .ok s) ↔ WellTyped lib.named entries) ∧
      ∀ s, ofText lib label text = .ok s → Describes entries s ∧
        ∀ label' text' entries', lib.yaml text' = .ok (.mapping entries') →
          (Yaml.Value.mapping entries).Reordered (.mapping entries') →
          ∃ s', ofText lib label' text' = .ok s' ∧ s.SameAs s' := by
  have hentries := hlib.distinct h
  rw [ofText_of_mapping h]
  simp only [ofEntries_eq_ok_iff hentries]
  constructor
  · constructor
    · rintro ⟨s, htyped, -⟩
      exact htyped
    · intro htyped
      obtain ⟨s, hs⟩ := exists_describes hentries htyped
      exact ⟨s, htyped, hs⟩
  · rintro s ⟨htyped, hs⟩
    refine ⟨hs, fun label' text' entries' h' hreordered => ?_⟩
    obtain ⟨t, ht, hsame⟩ := hs.reordered hentries hreordered
    refine ⟨t, ?_, hsame⟩
    rw [ofText_of_mapping h']
    exact (ofEntries_eq_ok_iff (hlib.distinct h')).2 ⟨htyped.reordered hreordered, ht⟩

def typesFirst : String :=
  "\x7b'vendor-type-overrides': \x7b'b': 'y', 'a': 'x'\x7d, " ++
    "'inline': \x7b'endpoint-properties': !!bool 'no'\x7d\x7d"

/-- The same fields in blocks, with the keys in another order, also inside a field. -/
def inlineFirst : String :=
  "'inline':\n  'endpoint-properties': !!bool 'no'\n" ++
    "'vendor-type-overrides':\n  'a': 'x'\n  'b': 'y'"

def switchesOff : Yaml.Value :=
  .mapping [(.text "endpoint-properties", .truth false)]

def typesFirstEntries : Entries :=
  [(.text "vendor-type-overrides", .mapping (textEntries [("b", "y"), ("a", "x")])),
    (.text "inline", switchesOff)]

def inlineFirstEntries : Entries :=
  [(.text "inline", switchesOff),
    (.text "vendor-type-overrides", .mapping (textEntries [("a", "x"), ("b", "y")]))]

theorem reordered_typesFirst :
    (Yaml.Value.mapping typesFirstEntries).Reordered (.mapping inlineFirstEntries) := by
  have htypes : (Yaml.Value.mapping (textEntries [("b", "y"), ("a", "x")])).Reordered
      (.mapping (textEntries [("a", "x"), ("b", "y")])) :=
    .mapping (.swap _ _ _) (.cons _ (.same _) (.cons _ (.same _) .nil))
  exact .mapping (.swap _ _ _) (.cons _ (.same _) (.cons _ htypes .nil))

theorem settings_of_typesFirst :
    Library.own.yaml.Lawful ∧
      Library.own.yaml typesFirst = .ok (.mapping typesFirstEntries) ∧
      WellTyped Library.own.named typesFirstEntries ∧
      ∃ s s', ofText Library.own "a" typesFirst = .ok s ∧ Describes typesFirstEntries s ∧
        s.vendorTypes = [(.ofString "b", .ofString "y"), (.ofString "a", .ofString "x")] ∧
        ofText Library.own "b" inlineFirst = .ok s' ∧ s.SameAs s' := by
  have htext : Library.own.yaml typesFirst = .ok (.mapping typesFirstEntries) := by
    decide +kernel
  have htext' : Library.own.yaml inlineFirst = .ok (.mapping inlineFirstEntries) := by
    decide +kernel
  have hlawful : Library.own.yaml.Lawful := Yaml.lawful_read
  obtain ⟨haccepts, hsettings⟩ := settings_of_mapping hlawful htext "a"
  have hs : ofText Library.own "a" typesFirst = .ok
      { inline.endpointProperties := false, vendorTypes := [("b", "y"), ("a", "x")] } :=
    ofText_of_mapping htext "a"
  obtain ⟨hdescribes, hturned⟩ := hsettings _ hs
  obtain ⟨s', hs', hsame⟩ := hturned "b" _ _ htext' reordered_typesFirst
  exact ⟨hlawful, htext, haccepts.1 ⟨_, hs⟩, _, s', hs, hdescribes, rfl, hs', hsame⟩

end Settings

end HomeCatalog
