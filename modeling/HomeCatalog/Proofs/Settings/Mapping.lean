import HomeCatalog.Proofs.Settings.Fields
import Mathlib.Data.List.Perm.Basic

/-!
# Settings of mappings

A mapping makes settings exactly if it is well-typed (`Settings.WellTyped`), and what it makes is
said of its entries alone (`Settings.Describes`): each field is the given value or the default, and
the entries of other fields do not count. Both are put together from the fields by
`Settings.ofEntries_eq_ok_iff`. An entry tells nothing of its place among the others, so the order
of the keys makes no difference (`Settings.settings_of_mapping`).
-/

namespace HomeCatalog.Settings

/-! ## The fields that are no single values -/

/-- The switches for lines: known names, and truth values or null under them. -/
def AdmitsSwitches (inner : Entries) : Prop :=
  KnowsNames inlineNames inner ∧ ∀ name ∈ inlineNames, Admits .truth inner name

structure HoldsSwitches (inner : Entries) (s : InlineSettings) : Prop where
  containerProperties : Holds .truth inner "container-properties" false s.containerProperties
  deviceProperties : Holds .truth inner "device-properties" false s.deviceProperties
  endpointProperties : Holds .truth inner "endpoint-properties" true s.endpointProperties
  variableEntries : Holds .truth inner "variable-entries" false s.variableEntries

/-- Texts as the keys and values of a mapping. -/
def textEntries (types : List (Letters × Letters)) : Entries :=
  types.map fun p => (.text p.1, .text p.2)

section Parts

variable (entries : Entries)

/-- What is given is an expression that can be read. -/
def AdmitsFilter (named : Pattern.CharacterNames) : Prop :=
  ∀ t, Gives entries "name-filter" (.text t) → ∃ p, Pattern.Node.read named t = .ok p

/-- An empty filter is none. -/
def HoldsFilter (filter : Option Letters) : Prop :=
  ∃ t, Holds .text entries "name-filter" "" t ∧ filter = if t = "" then none else some t

def AdmitsInline : Prop :=
  ∀ v, Gives entries "inline" v → ∃ inner, v = .mapping inner ∧ AdmitsSwitches inner

def HoldsInline (s : InlineSettings) : Prop :=
  (∃ inner, Gives entries "inline" (.mapping inner) ∧ HoldsSwitches inner s) ∨
    (∀ v, ¬Gives entries "inline" v) ∧ s = ⟨false, false, true, false⟩

def AdmitsTypes : Prop :=
  ∀ v, Gives entries "vendor-type-overrides" v → v = .null ∨ ∃ inner : Entries,
    v = .mapping inner ∧ ∀ e ∈ inner, ∃ key id, e = (.text key, .text id)

/-- The types that are given take the place of all defaults; null gives none. -/
def HoldsTypes (types : List (Letters × Letters)) : Prop :=
  Gives entries "vendor-type-overrides" .null ∧ types = [] ∨
    Gives entries "vendor-type-overrides" (.mapping (textEntries types)) ∨
    (∀ v, ¬Gives entries "vendor-type-overrides" v) ∧
      types = ([("shelly", "shellydevice")] : List (Letters × Letters))

end Parts

/-! ## All fields -/

/-- The fields that are texts or null. -/
def textNames : List String :=
  ["input-directory", "output-directory", "devices-file", "variables-file", "name-filter"]

/-- Every field of the mapping is known and has a value of its type. -/
structure WellTyped (named : Pattern.CharacterNames) (entries : Entries) : Prop where
  known : KnowsNames fieldNames entries
  texts : ∀ name ∈ textNames, Admits .text entries name
  nameFilter : AdmitsFilter entries named
  includeDefaultEndpoints : Admits .truth entries "include-default-endpoints"
  inline : AdmitsInline entries
  vendorTypes : AdmitsTypes entries

/-- The settings are those of the mapping. -/
structure Describes (entries : Entries) (s : Settings) : Prop where
  inputDirectory : Holds .text entries "input-directory" "jsondb" s.inputDirectory
  outputDirectory : Holds .text entries "output-directory" "conf" s.outputDirectory
  devicesFile : Holds .text entries "devices-file" "habconf.things" s.devicesFile
  variablesFile : Holds .text entries "variables-file" "habconf.items" s.variablesFile
  nameFilter : HoldsFilter entries s.nameFilter
  includeDefaultEndpoints :
    Holds .truth entries "include-default-endpoints" false s.includeDefaultEndpoints
  inline : HoldsInline entries s.inline
  vendorTypes : HoldsTypes entries s.vendorTypes

variable {lib : Library} {label : String} {entries : Entries} {v : Yaml.Value}

/-! ## The filter -/

/-- The empty expression can be read, so a filter that is left out is no obstacle. -/
theorem exists_read_empty (named : Pattern.CharacterNames) :
    ∃ p, Pattern.Node.read named "" = .ok p :=
  ⟨_, rfl⟩

section Filter

variable (hkeys : Yaml.Value.DistinctKeys entries)

include hkeys

theorem nameFilterOf_eq_ok_iff {filter : Option Letters} :
    nameFilterOf lib label entries = .ok filter ↔
      ∃ t, Holds .text entries "name-filter" "" t ∧ (∃ p, Pattern.Node.read lib.named t = .ok p) ∧
        filter = if t = "" then none else some t := by
  rw [nameFilterOf, bind_eq_ok_iff]
  simp only [textField_eq_ok_iff hkeys]
  refine exists_congr fun t => and_congr_right fun _ => ?_
  by_cases hempty : t = ""
  · subst hempty
    rw [if_pos (Letters.isEmpty_iff.2 rfl), if_pos rfl]
    constructor
    · intro h
      exact ⟨exists_read_empty _, (Except.ok.inj h).symm⟩
    · rintro ⟨-, rfl⟩
      rfl
  · rw [if_neg (mt Letters.isEmpty_iff.1 hempty), if_neg hempty]
    cases hread : Pattern.Node.read lib.named t with
    | ok p => simp [pure, Except.pure, eq_comm]
    | error e => cases e <;> simp

theorem nameFilter_iff {filter : Option Letters} :
    nameFilterOf lib label entries = .ok filter ↔
      AdmitsFilter entries lib.named ∧ Admits .text entries "name-filter" ∧
        HoldsFilter entries filter := by
  rw [nameFilterOf_eq_ok_iff hkeys]
  constructor
  · rintro ⟨t, ht, hread, hfilter⟩
    refine ⟨fun u hu => ?_, (exists_holds_iff hkeys _).1 ⟨t, ht⟩, t, ht, hfilter⟩
    obtain rfl := Yaml.Value.text.inj (ht.eq_of_gives hkeys hu nofun)
    exact hread
  · rintro ⟨hread, -, t, ht, hfilter⟩
    refine ⟨t, ht, ?_, hfilter⟩
    rcases ht with hgives | ⟨-, rfl⟩
    · exact hread t hgives
    · exact exists_read_empty _

end Filter

/-! ## The switches for lines -/

theorem inlineOf_eq_ok_iff (hv : v.Distinct) {s : InlineSettings} :
    inlineOf label v = .ok s ↔
      ∃ inner, v = .mapping inner ∧ KnowsNames inlineNames inner ∧ HoldsSwitches inner s := by
  cases v with
  | mapping inner =>
    obtain ⟨hkeys, -⟩ := hv.entries
    simp only [inlineOf, bind_eq_ok_iff, checkNames_eq_ok_iff, truthField_eq_ok_iff hkeys]
    constructor
    · rintro ⟨_, hknown, _, hcontainer, _, hdevice, _, hendpoint, _, hvariable, ⟨⟩⟩
      exact ⟨inner, rfl, hknown, hcontainer, hdevice, hendpoint, hvariable⟩
    · rintro ⟨_, ⟨⟩, hknown, hcontainer, hdevice, hendpoint, hvariable⟩
      exact ⟨(), hknown, _, hcontainer, _, hdevice, _, hendpoint, _, hvariable, rfl⟩
  | _ => simp [inlineOf]

section Switches

variable {inner : Entries} (hkeys : Yaml.Value.DistinctKeys inner)

include hkeys

theorem HoldsSwitches.admits {s : InlineSettings} (h : HoldsSwitches inner s) :
    ∀ name ∈ inlineNames, Admits .truth inner name := by
  have hadmits : ∀ {name default x}, Holds .truth inner name default x →
      Admits .truth inner name := fun h => (exists_holds_iff hkeys _).1 ⟨_, h⟩
  simp only [inlineNames, List.forall_mem_cons]
  exact ⟨hadmits h.containerProperties, hadmits h.deviceProperties,
    hadmits h.endpointProperties, hadmits h.variableEntries, List.forall_mem_nil _⟩

theorem exists_holdsSwitches (h : AdmitsSwitches inner) : ∃ s, HoldsSwitches inner s := by
  have hswitch : ∀ name ∈ inlineNames, ∀ default, ∃ b, Holds .truth inner name default b :=
    fun name hname default => (exists_holds_iff hkeys default).2 (h.2 name hname)
  obtain ⟨container, hcontainer⟩ := hswitch "container-properties" (by decide) false
  obtain ⟨device, hdevice⟩ := hswitch "device-properties" (by decide) false
  obtain ⟨endpoint, hendpoint⟩ := hswitch "endpoint-properties" (by decide) true
  obtain ⟨vars, hvars⟩ := hswitch "variable-entries" (by decide) false
  exact ⟨⟨container, device, endpoint, vars⟩, hcontainer, hdevice, hendpoint, hvars⟩

end Switches

section Inline

variable (hentries : (Yaml.Value.mapping entries).Distinct)

include hentries

theorem inline_iff {s : InlineSettings} :
    (field? entries "inline").elim (.ok {}) (inlineOf label) = .ok s ↔
      AdmitsInline entries ∧ HoldsInline entries s := by
  obtain ⟨hkeys, hvalues⟩ := hentries.entries
  rw [elim_field?_eq_ok_iff hkeys]
  constructor
  · rintro (⟨v, hv, hread⟩ | ⟨hnone, rfl⟩)
    · obtain ⟨inner, rfl, hknown, hs⟩ := (inlineOf_eq_ok_iff (hvalues _ hv)).1 hread
      have hinner : (Yaml.Value.mapping inner).Distinct := hvalues _ hv
      refine ⟨fun w hw => ⟨inner, gives_unique hkeys hw hv, hknown, ?_⟩, .inl ⟨inner, hv, hs⟩⟩
      exact hs.admits hinner.entries.1
    · exact ⟨fun v hv => absurd hv (hnone v), .inr ⟨hnone, rfl⟩⟩
  · rintro ⟨htyped, ⟨inner, hinner, hs⟩ | hnone⟩
    · obtain ⟨_, ⟨⟩, hknown, -⟩ := htyped _ hinner
      exact .inl ⟨_, hinner, (inlineOf_eq_ok_iff (hvalues _ hinner)).2 ⟨inner, rfl, hknown, hs⟩⟩
    · exact .inr hnone

theorem exists_holdsInline (h : AdmitsInline entries) : ∃ s, HoldsInline entries s := by
  by_cases hnone : ∀ v, ¬Gives entries "inline" v
  · exact ⟨_, .inr ⟨hnone, rfl⟩⟩
  · obtain ⟨v, hv⟩ := not_forall_not.1 hnone
    obtain ⟨inner, rfl, htyped⟩ := h v hv
    have hinner : (Yaml.Value.mapping inner).Distinct := hentries.entries.2 _ hv
    obtain ⟨s, hs⟩ := exists_holdsSwitches hinner.entries.1 htyped
    exact ⟨s, .inl ⟨inner, hv, hs⟩⟩

end Inline

/-! ## Types of namespaces -/

theorem vendorTypesOf_eq_ok_iff {types : List (Letters × Letters)} :
    vendorTypesOf label v = .ok types ↔
      v = .null ∧ types = [] ∨ v = .mapping (textEntries types) := by
  cases v with
  | null => simp [vendorTypesOf, eq_comm]
  | mapping inner =>
    have htexts : inner = textEntries types ↔
        List.Forall₂ (fun e p => e = (.text p.1, .text p.2)) inner types := by
      rw [textEntries, ← List.forall₂_eq_eq_eq, List.forall₂_map_right_iff]
    rw [vendorTypesOf, mapM_eq_ok_iff]
    simp only [reduceCtorEq, false_and, false_or, Yaml.Value.mapping.injEq, htexts]
    constructor
    · refine fun h => h.imp ?_
      rintro ⟨k, i⟩ ⟨key, id⟩ hentry
      cases k <;> cases i <;> simp at hentry ⊢
      exact hentry
    · refine fun h => h.imp ?_
      rintro _ ⟨key, id⟩ rfl
      rfl
  | _ => simp [vendorTypesOf]

theorem exists_textEntries_iff {inner : Entries} :
    (∃ types, inner = textEntries types) ↔ ∀ e ∈ inner, ∃ key id, e = (.text key, .text id) := by
  constructor
  · rintro ⟨types, rfl⟩ e he
    obtain ⟨⟨key, id⟩, -, rfl⟩ := List.mem_map.1 he
    exact ⟨key, id, rfl⟩
  · intro h
    induction inner with
    | nil => exact ⟨[], rfl⟩
    | cons e rest ih =>
      obtain ⟨⟨key, id, rfl⟩, hrest⟩ := List.forall_mem_cons.1 h
      obtain ⟨types, rfl⟩ := ih hrest
      exact ⟨(key, id) :: types, rfl⟩

theorem vendorTypes_iff (hkeys : Yaml.Value.DistinctKeys entries)
    {types : List (Letters × Letters)} :
    (field? entries "vendor-type-overrides").elim (.ok ({} : Settings).vendorTypes)
        (vendorTypesOf label) = .ok types ↔
      AdmitsTypes entries ∧ HoldsTypes entries types := by
  simp only [elim_field?_eq_ok_iff hkeys, vendorTypesOf_eq_ok_iff]
  constructor
  · rintro (⟨v, hv, ⟨rfl, rfl⟩ | rfl⟩ | hnone)
    · exact ⟨fun w hw => .inl (gives_unique hkeys hw hv), .inl ⟨hv, rfl⟩⟩
    · refine ⟨fun w hw => .inr ⟨_, gives_unique hkeys hw hv, ?_⟩, .inr (.inl hv)⟩
      exact exists_textEntries_iff.1 ⟨types, rfl⟩
    · exact ⟨fun v hv => absurd hv (hnone.1 v), .inr (.inr hnone)⟩
  · rintro ⟨-, ⟨hv, rfl⟩ | hv | hnone⟩
    · exact .inl ⟨_, hv, .inl ⟨rfl, rfl⟩⟩
    · exact .inl ⟨_, hv, .inr rfl⟩
    · exact .inr hnone

theorem exists_holdsTypes (h : AdmitsTypes entries) : ∃ types, HoldsTypes entries types := by
  by_cases hnone : ∀ v, ¬Gives entries "vendor-type-overrides" v
  · exact ⟨_, .inr (.inr ⟨hnone, rfl⟩)⟩
  · obtain ⟨v, hv⟩ := not_forall_not.1 hnone
    obtain rfl | ⟨inner, rfl, htexts⟩ := h v hv
    · exact ⟨[], .inl ⟨hv, rfl⟩⟩
    · obtain ⟨types, rfl⟩ := exists_textEntries_iff.2 htexts
      exact ⟨types, .inr (.inl hv)⟩

/-! ## From one field to the next -/

section All

variable (hentries : (Yaml.Value.mapping entries).Distinct)

include hentries

/-- The fields are read one by one, and none of them has a say in another. -/
theorem ofEntries_eq_ok_iff {s : Settings} :
    ofEntries lib label entries = .ok s ↔ WellTyped lib.named entries ∧ Describes entries s := by
  have hkeys := hentries.entries.1
  simp only [ofEntries, bind_eq_ok_iff, checkNames_eq_ok_iff, textField_eq_ok_iff hkeys,
    truthField_eq_ok_iff hkeys, nameFilter_iff hkeys, inline_iff hentries, vendorTypes_iff hkeys]
  constructor
  · rintro ⟨_, hknown, _, hinput, _, houtput, _, hdevices, _, hvars, _, hdefaults, _,
      ⟨hread, hexpression, hfilter⟩, _, ⟨hinlineTyped, hinline⟩, _, ⟨htypesTyped, htypes⟩, ⟨⟩⟩
    have hadmits : ∀ {name default x}, Holds .text entries name default x →
        Admits .text entries name := fun h => (exists_holds_iff hkeys _).1 ⟨_, h⟩
    have htexts : ∀ name ∈ textNames, Admits .text entries name := by
      simp only [textNames, List.forall_mem_cons]
      exact ⟨hadmits hinput, hadmits houtput, hadmits hdevices, hadmits hvars, hexpression,
        List.forall_mem_nil _⟩
    have hdefaultsTyped : Admits .truth entries "include-default-endpoints" :=
      (exists_holds_iff hkeys _).1 ⟨_, hdefaults⟩
    exact ⟨⟨hknown, htexts, hread, hdefaultsTyped, hinlineTyped, htypesTyped⟩,
      ⟨hinput, houtput, hdevices, hvars, hfilter, hdefaults, hinline, htypes⟩⟩
  · rintro ⟨htyped, h⟩
    have hexpression := htyped.texts "name-filter" (by decide)
    exact ⟨(), htyped.known, _, h.inputDirectory, _, h.outputDirectory, _, h.devicesFile, _,
      h.variablesFile, _, h.includeDefaultEndpoints, _,
      ⟨htyped.nameFilter, hexpression, h.nameFilter⟩, _, ⟨htyped.inline, h.inline⟩, _,
      ⟨htyped.vendorTypes, h.vendorTypes⟩, rfl⟩

/-- There are settings for every mapping that is well-typed. -/
theorem exists_describes {named : Pattern.CharacterNames} (h : WellTyped named entries) :
    ∃ s, Describes entries s := by
  obtain ⟨hkeys, hvalues⟩ := hentries.entries
  have htext : ∀ name ∈ textNames, ∀ default, ∃ t, Holds .text entries name default t :=
    fun name hname default => (exists_holds_iff hkeys default).2 (h.texts name hname)
  obtain ⟨input, hinput⟩ := htext "input-directory" (by decide) "jsondb"
  obtain ⟨output, houtput⟩ := htext "output-directory" (by decide) "conf"
  obtain ⟨devices, hdevices⟩ := htext "devices-file" (by decide) "habconf.things"
  obtain ⟨vars, hvars⟩ := htext "variables-file" (by decide) "habconf.items"
  obtain ⟨t, ht⟩ := htext "name-filter" (by decide) ""
  obtain ⟨defaults, hdefaults⟩ := (exists_holds_iff hkeys false).2 h.includeDefaultEndpoints
  obtain ⟨inline, hinline⟩ := exists_holdsInline hentries h.inline
  obtain ⟨types, htypes⟩ := exists_holdsTypes h.vendorTypes
  exact ⟨⟨input, output, devices, vars, if t = "" then none else some t, defaults, inline, types⟩,
    hinput, houtput, hdevices, hvars, ⟨t, ht, rfl⟩, hdefaults, hinline, htypes⟩

end All

end HomeCatalog.Settings
