import HomeCatalog.Proofs.Disk.Reading
import HomeCatalog.Library.Own
import HomeCatalog.Proofs.Settings.Mapping
import HomeCatalog.Proofs.Yaml.Document

/-!
# Settings that end without a message

Settings are there, or there is a fault with a message, unless the text goes wrong where no check
stands: in the bytes, in a document without a value, in the name of a field, or in the size of the
filter. These cases are told apart by `Settings.Derails`, and `Settings.settings_reported_iff` says
that there are no others. The checks come in an order, so a case behind another fault of its mapping
does not count.
-/

namespace HomeCatalog.Settings

instance {α : Type} : DecidablePred fun x : Except Failure α => Reported Failure.fault x
  | .ok a => .isTrue (.inl ⟨a, rfl⟩)
  | .error (.fault f) => .isTrue (.inr ⟨f, rfl⟩)
  | .error (.unread _) | .error (.fieldName _) | .error (.filter _) | .error (.encoding _) =>
    .isFalse fun h => by simp [Reported] at h

/-- Some name in the mapping is no text. -/
def HasOddName (entries : Entries) : Prop :=
  ∃ e ∈ entries, ∀ t, e.1 ≠ .text t

/-- The names and the fields that are looked at before the filter are as they should be. -/
structure WellTypedToFilter (entries : Entries) : Prop where
  known : KnowsNames fieldNames entries
  inputDirectory : Admits .text entries "input-directory"
  outputDirectory : Admits .text entries "output-directory"
  devicesFile : Admits .text entries "devices-file"
  variablesFile : Admits .text entries "variables-file"
  includeDefaultEndpoints : Admits .truth entries "include-default-endpoints"

/-- Where a mapping ends the reading with no fault. -/
inductive DerailsAt (named : Pattern.CharacterNames) (entries : Entries) : Prop
  /-- The name of a field. -/
  | name (h : HasOddName entries)
  /-- A filter that asks for more than there can be. -/
  | filter (hbefore : WellTypedToFilter entries) {t : Letters} {l : Pattern.Limit}
    (h : Gives entries "name-filter" (.text t))
    (hread : Pattern.Node.read named t = .error (.limit l))
  /-- The name of a switch for lines. -/
  | switch (hbefore : WellTypedToFilter entries) (hfilter : AdmitsFilter entries named)
    (htext : Admits .text entries "name-filter") {inner : Entries}
    (h : Gives entries "inline" (.mapping inner)) (hname : HasOddName inner)

/-- Where a text ends the reading with no fault. -/
inductive Derails (lib : Library) (text : Letters) : Prop
  /-- The text is a document that has no value. -/
  | unread {reason : String} (h : lib.yaml text = .error (.unread reason))
  | mapping {entries : Entries} (h : lib.yaml text = .ok (.mapping entries))
    (hentries : DerailsAt lib.named entries)

variable {lib : Library} {label : String} {entries : Entries} {v : Yaml.Value}

/-! ## Fields -/

theorem textField_reported {name : String} {default : Letters} :
    ¬FailsWith (Unreported Failure.fault) (textField label entries name default) := by
  unfold textField
  split <;> simp [Unreported]

theorem truthField_reported {name : String} {default : Bool} :
    ¬FailsWith (Unreported Failure.fault) (truthField label entries name default) := by
  unfold truthField
  split <;> simp [Unreported]

theorem vendorTypesOf_reported : ¬FailsWith (Unreported Failure.fault) (vendorTypesOf label v) := by
  cases v with
  | mapping inner =>
    intro h
    obtain ⟨⟨k, i⟩, -, hentry⟩ := failsWith_of_mapM h
    revert hentry
    split <;> simp [Unreported]
  | _ => simp [vendorTypesOf, Unreported]

theorem text?_isNone_iff : (text? v).isNone = true ↔ ∀ t, v ≠ .text t := by
  cases v <;> simp [text?]

theorem checkNames_failsWith_iff {known : List String} {fault : List Letters → Fault} :
    FailsWith (Unreported Failure.fault) (checkNames known fault entries) ↔ HasOddName entries := by
  unfold checkNames
  dsimp only
  split
  · next k hk =>
    obtain ⟨e, he, rfl⟩ := List.mem_map.1 (List.mem_of_mem_filter (List.mem_of_find?_eq_some hk))
    have hnone : (text? e.1).isNone = true := List.find?_some (p := fun k => (text? k).isNone) hk
    have hodd : ∀ t, e.1 ≠ .text t := text?_isNone_iff.1 hnone
    exact iff_of_true (failsWith_error_iff.2 nofun) ⟨e, he, hodd⟩
  · next hnone =>
    refine iff_of_false ?_ ?_
    · split <;> simp [Unreported]
    · rintro ⟨e, he, hodd⟩
      refine List.find?_eq_none.1 hnone e.1 (List.mem_filter.2 ⟨List.mem_map_of_mem he, ?_⟩)
        (text?_isNone_iff.2 hodd)
      simp [Yaml.Value.isText_iff, hodd]

section Distinct

variable (hkeys : Yaml.Value.DistinctKeys entries)

include hkeys

theorem nameFilterOf_failsWith_iff :
    FailsWith (Unreported Failure.fault) (nameFilterOf lib label entries) ↔
      ∃ t, Gives entries "name-filter" (.text t) ∧
        ∃ l, Pattern.Node.read lib.named t = .error (.limit l) := by
  obtain ⟨p, hempty⟩ := exists_read_empty lib.named
  rw [nameFilterOf, failsWith_bind_iff]
  simp only [textField_reported, false_or, textField_eq_ok_iff hkeys]
  refine exists_congr fun t => ?_
  by_cases ht : t = ""
  · subst ht
    simp [hempty]
  · rw [if_neg (mt Letters.isEmpty_iff.1 ht)]
    have hholds : Holds .text entries "name-filter" "" t ↔
        Gives entries "name-filter" (.text t) := ⟨fun h => h.resolve_right fun h => ht h.2, .inl⟩
    rw [hholds]
    cases hread : Pattern.Node.read lib.named t with
    | ok p => simp
    | error e => cases e <;> simp [Unreported]

theorem elim_field?_failsWith_iff {α : Type} {name : String} {P : Failure → Prop}
    {read : Yaml.Value → Except Failure α} {default : α} :
    FailsWith P ((field? entries name).elim (.ok default) read) ↔
      ∃ v, Gives entries name v ∧ FailsWith P (read v) := by
  simp only [← field?_eq_some_iff hkeys]
  cases field? entries name <;> simp

end Distinct

theorem inlineOf_failsWith_iff :
    FailsWith (Unreported Failure.fault) (inlineOf label v) ↔
      ∃ inner, v = .mapping inner ∧ HasOddName inner := by
  cases v with
  | mapping inner =>
    simp only [inlineOf, failsWith_bind_iff, checkNames_failsWith_iff, truthField_reported,
      not_failsWith_pure, and_false, exists_false, or_false, Yaml.Value.mapping.injEq,
      exists_eq_left']
  | _ => simp [inlineOf, Unreported]

theorem exists_nameFilterOf_iff (hkeys : Yaml.Value.DistinctKeys entries) :
    (∃ filter, nameFilterOf lib label entries = .ok filter) ↔
      AdmitsFilter entries lib.named ∧ Admits .text entries "name-filter" := by
  simp only [nameFilter_iff hkeys]
  constructor
  · rintro ⟨filter, hread, htext, -⟩
    exact ⟨hread, htext⟩
  · rintro ⟨hread, htext⟩
    obtain ⟨t, ht⟩ := (exists_holds_iff hkeys (.ofString "")).2 htext
    exact ⟨_, hread, htext, t, ht, rfl⟩

/-! ## Mappings and texts -/

theorem ofEntries_failsWith_iff (hentries : (Yaml.Value.mapping entries).Distinct) :
    FailsWith (Unreported Failure.fault) (ofEntries lib label entries) ↔
      DerailsAt lib.named entries := by
  have hkeys := hentries.entries.1
  simp only [ofEntries, failsWith_bind_iff, checkNames_failsWith_iff, checkNames_eq_ok_iff,
    textField_reported, truthField_reported, vendorTypesOf_reported,
    nameFilterOf_failsWith_iff hkeys, elim_field?_failsWith_iff hkeys, inlineOf_failsWith_iff,
    not_failsWith_pure, textField_eq_ok_iff hkeys, truthField_eq_ok_iff hkeys, false_or, or_false,
    and_false, exists_false, exists_const, exists_and_right, exists_holds_iff hkeys,
    exists_nameFilterOf_iff hkeys]
  constructor
  · rintro (hname | ⟨hknown, hinput, houtput, hdevices, hvars, hdefaults, hlater⟩)
    · exact .name hname
    · have hbefore : WellTypedToFilter entries :=
        ⟨hknown, hinput, houtput, hdevices, hvars, hdefaults⟩
      obtain ⟨t, ht, l, hread⟩ | ⟨⟨hfilter, htext⟩, _, hv, inner, rfl, hname⟩ := hlater
      · exact .filter hbefore ht hread
      · exact .switch hbefore hfilter htext hv hname
  · intro h
    cases h with
    | name hname => exact .inl hname
    | filter hbefore ht hread =>
      exact .inr ⟨hbefore.known, hbefore.inputDirectory, hbefore.outputDirectory,
        hbefore.devicesFile, hbefore.variablesFile, hbefore.includeDefaultEndpoints,
        .inl ⟨_, ht, _, hread⟩⟩
    | switch hbefore hfilter htext hv hname =>
      exact .inr ⟨hbefore.known, hbefore.inputDirectory, hbefore.outputDirectory,
        hbefore.devicesFile, hbefore.variablesFile, hbefore.includeDefaultEndpoints,
        .inr ⟨⟨hfilter, htext⟩, _, hv, _, rfl, hname⟩⟩

theorem ofText_failsWith_iff (hlib : lib.yaml.Lawful) {text : Letters} :
    FailsWith (Unreported Failure.fault) (ofText lib label text) ↔ Derails lib text := by
  have hderails : Derails lib text ↔
      (∃ reason, lib.yaml text = .error (.unread reason)) ∨ ∃ entries,
        lib.yaml text = .ok (.mapping entries) ∧ DerailsAt lib.named entries := by
    constructor
    · intro h
      cases h with
      | unread h => exact .inl ⟨_, h⟩
      | mapping h hentries => exact .inr ⟨_, h, hentries⟩
    · rintro (⟨reason, h⟩ | ⟨entries, h, hentries⟩)
      · exact .unread h
      · exact .mapping h hentries
  rw [hderails, ofText]
  cases htext : lib.yaml text with
  | error f => cases f <;> simp [Unreported]
  | ok v =>
    cases v with
    | mapping entries => simp [ofValue, ofEntries_failsWith_iff (hlib.distinct htext)]
    | _ => simp [ofValue, Unreported]

/-! ## Files -/

theorem run_load (d : Disk) (file : Path) :
    ((load lib file).run d).1 =
      match d.unlessRefused (.read file) (d.contentAt file) with
      | .error cause =>
        if cause = .noSuchEntry then .error (.fault (.missing file.text))
        else .error (.fault (.unreadable (d.fault (.read file) cause)))
      | .ok bytes =>
        match Text.decodeUtf8 bytes with
        | .error f => .error (.encoding f)
        | .ok cs => ofText lib file.text (String.ofList (Text.unifyLineEnds cs)) := by
  rw [load, Task.run_bind, Task.fst_run_readText]
  cases d.unlessRefused (.read file) (d.contentAt file) with
  | error cause =>
    dsimp only [Disk.fault]
    split <;> rfl
  | ok bytes =>
    dsimp only [textOfBytes]
    cases Text.decodeUtf8 bytes <;> rfl

/-- Settings are there or a fault is reported, unless the text derails; and for a file, unless it
has bytes that are no text, or bytes of a text that derails. -/
theorem settings_reported_iff {lib : Library} (hlib : lib.yaml.Lawful) (label : String)
    (text : Letters) (d : Disk) (file : Path) :
    (Reported Failure.fault (ofText lib label text) ↔ ¬Derails lib text) ∧
    (Reported Failure.fault ((load lib file).run d).1 ↔
      ∀ bytes, d.unlessRefused (.read file) (d.contentAt file) = .ok bytes →
        ∃ cs, Text.decodeUtf8 bytes = .ok cs ∧
          ¬Derails lib (String.ofList (Text.unifyLineEnds cs))) := by
  refine ⟨reported_iff_not_failsWith.trans (not_congr (ofText_failsWith_iff hlib)), ?_⟩
  rw [run_load, reported_iff_not_failsWith]
  cases d.unlessRefused (.read file) (d.contentAt file) with
  | error cause =>
    dsimp only
    split <;> simp [Unreported]
  | ok bytes =>
    dsimp only
    cases hdecode : Text.decodeUtf8 bytes with
    | error f => simp [hdecode, Unreported]
    | ok cs => simp [hdecode, ofText_failsWith_iff hlib]

/-- A disk with one file. -/
def fileOf (bytes : List UInt8) : Disk where
  tree := [(["f"], .file bytes 0o644)]

/-- A name that is no text derails, and a text in a field does not; a byte that begins no character
is no text. -/
theorem settings_reported_of_texts : Library.own.yaml.Lawful ∧ Derails .own "!!int '5': ''" ∧
    ¬Derails .own "'devices-file': 'home'" ∧
    ¬Reported Failure.fault ((load .own ⟨"", ["f"]⟩).run (fileOf [0xFF])).1 := by
  have hlawful : Library.own.yaml.Lawful := Yaml.lawful_read
  have hreported := fun text =>
    settings_reported_iff hlawful "f" text (fileOf [0xFF]) ⟨"", ["f"]⟩
  refine ⟨hlawful, not_not.1 (mt (hreported _).1.2 (by decide +kernel)),
    (hreported _).1.1 (by decide +kernel), mt (hreported "").2.1 fun h => ?_⟩
  obtain ⟨cs, hcs, -⟩ := h [0xFF] rfl
  have hbytes : (Text.decodeUtf8 [0xFF]).toOption = none := by decide +kernel
  rw [hcs] at hbytes
  cases hbytes

/-- Nothing is reported of a byte that begins no character, of the name 5, of a switch named no, of
a word that is no truth value and of a great many repetitions. -/
theorem unreported_settings :
    ¬Reported Failure.fault ((load .own ⟨"", ["f"]⟩).run (fileOf [0xFF])).1 ∧
      ¬Reported Failure.fault (ofText .own "f" "!!int '5': ''") ∧
      ¬Reported Failure.fault (ofText .own "f" "'inline': \x7b!!bool 'no': ''\x7d") ∧
      ¬Reported Failure.fault (ofText .own "f" "!!bool 'maybe'") ∧
      ¬Reported Failure.fault (ofText .own "f" "'name-filter': 'a\x7b4294967296\x7d'") := by
  decide +kernel

end HomeCatalog.Settings
