import HomeCatalog.Proofs.Catalog.Attachment
import HomeCatalog.Proofs.Catalog.Ids
import HomeCatalog.Proofs.Database.Configuration
import HomeCatalog.Proofs.Database.Spelling
import HomeCatalog.Proofs.Json.Spelling

/-!
# Number literals in databases

A number that a configuration gives with a point and without an exponent is written as it was given,
digit by digit, and in quotes if a link or a note has it (`literals_of_recordsOf`). The statement
starts from the text of a document: what is looked up in a record is looked up in the same way
before and after its numbers are read, so each property is found with the literal it stems from.
-/

namespace HomeCatalog.Database

open Json (Source NumberLiteral)
open Json.Source (memberValues)

abbrev SourceMembers := List (Letters × Source)

/-! ## Where configurations stand -/

/-- The members of an object; other values have none. -/
def sourceMembers : Source → SourceMembers
  | .object ms => ms
  | _ => []

/-- The members of a record inside its wrapping, if it has one. -/
def recordMembers (s : Source) : SourceMembers :=
  match (sourceMembers s).lookup ("value" : Letters) with
  | some (.object inner) => inner
  | _ => sourceMembers s

def sourceMember (ms : SourceMembers) (name : String) : Source :=
  (ms.lookup (name : Letters)).getD .null

def configurationOf (ms : SourceMembers) : Source :=
  sourceMember ms "configuration"

def channelsOf (ms : SourceMembers) : List Source :=
  match sourceMember ms "channels" with
  | .list items => items
  | _ => []

/-- The members that hold the properties: older databases keep them one level deeper. -/
def propertyMembers : SourceMembers → SourceMembers
  | [(name, .object ms)] => if name = "properties" then ms else [(name, .object ms)]
  | ms => ms

/-- The values are those of the members that are not null, in order, and a literal with a point and
without an exponent is written as it is. -/
def KeepsLiterals (metadata : Bool) (ms : SourceMembers) (vs : ValueList) : Prop :=
  List.Forall₂ (fun m v => v.name = m.1.string ∧
      ∀ l, m.2 = .number l → l.IsFixed → v.render = literal metadata l.text)
    ((propertyMembers ms).filter fun m => isStated m.2.value) vs

/-! ## Looking up before and after numbers are read -/

theorem value_eq_object {s : Source} {js : Members} (h : s.value = .object js) :
    ∃ ms, s = .object ms ∧ js = memberValues ms := by
  cases s with
  | object ms =>
    cases h
    exact ⟨ms, rfl, rfl⟩
  | number l =>
    rw [Source.value, NumberLiteral.value] at h
    split at h <;> cases h
  | _ => cases h

theorem lookup_memberValues (ms : SourceMembers) (name : Letters) :
    (memberValues ms).lookup name = (ms.lookup name).map Source.value := by
  induction ms with
  | nil => rfl
  | cons m ms ih =>
    obtain ⟨n, s⟩ := m
    rw [memberValues, List.lookup_cons, List.lookup_cons, ih]
    cases name == n <;> rfl

theorem member_memberValues (ms : SourceMembers) (name : String) :
    member (memberValues ms) name = (sourceMember ms name).value := by
  rw [member, lookup_memberValues, sourceMember]
  cases ms.lookup (name : Letters) <;> rfl

theorem unwrapped_memberValues (ms : SourceMembers) :
    unwrapped (memberValues ms) = memberValues (recordMembers (.object ms)) := by
  have hlookup := lookup_memberValues ms "value"
  unfold recordMembers
  split
  · next inner hinner =>
    rw [sourceMembers] at hinner
    rw [hinner] at hlookup
    exact unwrapped_of_object hlookup
  · next hbare =>
    refine unwrapped_of_bare fun js hjs => ?_
    rw [hlookup, Option.map_eq_some_iff] at hjs
    obtain ⟨s, hs, hvalue⟩ := hjs
    obtain ⟨inner, rfl, -⟩ := value_eq_object hvalue
    exact hbare inner hs

theorem configurationMembers_memberValues (ms : SourceMembers) :
    configurationMembers (memberValues ms) = memberValues (propertyMembers ms) := by
  unfold propertyMembers
  split
  · rw [memberValues, memberValues, Source.value, configurationMembers]
    split <;> rfl
  · next hbare =>
    refine SpelledMember.configurationMembers_eq fun js hjs => ?_
    rw [nested, Json.Source.memberValues_eq, List.map_eq_singleton_iff] at hjs
    obtain ⟨⟨name, s⟩, rfl, hm⟩ := hjs
    obtain ⟨rfl, hvalue⟩ := Prod.mk.inj hm
    obtain ⟨inner, rfl, -⟩ := value_eq_object hvalue
    exact hbare _ inner rfl

theorem itemsOf_value (s : Source) :
    itemsOf s.value = (match s with | .list items => items | _ => []).map Source.value := by
  cases s with
  | list items => exact Json.Source.itemValues_eq items
  | number l =>
    rw [Source.value, NumberLiteral.value]
    split <;> rfl
  | _ => rfl

theorem itemsOf_channels (ms : SourceMembers) :
    itemsOf (member (memberValues ms) "channels") = (channelsOf ms).map Source.value := by
  rw [member_memberValues, itemsOf_value]
  rfl

/-! ## What a document holds -/

section Held

variable {ms : Members}

theorem held_member (h : (Json.object ms).Held) (name : String) : (member ms name).Held := by
  rw [member]
  cases hj : ms.lookup (name : Letters) with
  | none => trivial
  | some j =>
    obtain ⟨before, after, rfl, -⟩ := List.lookup_eq_some_iff.1 hj
    exact Json.held_object.1 h ((name : Letters), j) (by simp)

theorem held_unwrapped (h : (Json.object ms).Held) : (Json.object (unwrapped ms)).Held := by
  unfold unwrapped
  split
  · next inner hinner =>
    have hmember := held_member h "value"
    rwa [member, hinner] at hmember
  · exact h

theorem held_of_mem_itemsOf {j : Json} (h : j.Held) : ∀ i ∈ itemsOf j, i.Held := by
  unfold itemsOf
  split
  · exact Json.held_list.1 h
  · exact List.forall_mem_nil _

end Held

/-! ## One configuration -/

section Configuration

variable {owner : Owner} {metadata : Bool}

/-- A literal makes a property of a number, and the number is written as the literal has it. -/
theorem exists_value_of_literal (owner : Owner) (metadata : Bool) (name : Letters)
    {l : NumberLiteral} (hfixed : l.IsFixed) (hheld : l.value.Held) :
    ∃ p v, propertyOfMember? (name, l.value) = some p ∧
      valueOfProperty owner metadata p = .ok v ∧ v.name = name.string ∧
      v.render = literal metadata l.text := by
  rw [l.value_of_isFixed hfixed] at hheld ⊢
  obtain ⟨hfits, hrender⟩ := fits_decimal name.string metadata hheld
  have hvalue : (⟨name.string, "Decimal", l.decimal.scientific⟩ : Property).valueIn metadata =
      ⟨name.string, l.decimal.scientific, .decimal, metadata⟩ :=
    valueIn_of_declared? declared?_names.2.2.1
  refine ⟨_, ⟨name.string, l.decimal.scientific, .decimal, metadata⟩, rfl, ?_, rfl, ?_⟩
  · exact valueOfProperty_eq_ok_iff.2 ⟨hvalue.symm, hvalue ▸ hfits⟩
  · rw [hrender, Decimal.fixed, l.fixedChars_decimal hfixed, NumberLiteral.text]

theorem keepsLiterals_of_values {ms : SourceMembers}
    (hheld : (Json.object (memberValues ms)).Held) {ps : List Property} {vs : ValueList}
    (hps : propertiesOf (.object (memberValues ms)) = .ok ps)
    (hvs : valuesOfProperties owner metadata ps = .ok vs) : KeepsLiterals metadata ms vs := by
  have hmembers := held_of_mem_configurationMembers hheld
  rw [propertiesOf, configurationMembers_memberValues, Json.Source.memberValues_eq] at hps
  rw [configurationMembers_memberValues, Json.Source.memberValues_eq,
    List.forall_mem_map] at hmembers
  cases hps
  have hstated := forall₂_propertyOfMember?
    ((propertyMembers ms).map fun m => (m.1, m.2.value))
  rw [List.filter_map, List.forall₂_map_left_iff] at hstated
  have hall := (List.forall₂_and_left _ _).2 ⟨fun m hm => hmembers m (List.mem_filter.1 hm).1,
    forall₂_comp hstated (mapM_eq_ok_iff.1 hvs)⟩
  refine hall.imp ?_
  rintro ⟨name, s⟩ v ⟨hmheld, p, hp, hv⟩
  refine ⟨?_, fun l hl hfixed => ?_⟩
  · obtain ⟨⟨kind, raw⟩, -, rfl⟩ := Option.map_eq_some_iff.1 hp
    rw [(valueOfProperty_eq_ok_iff.1 hv).1]
    rfl
  · -- The property is the one that the literal makes, so its value is as well.
    obtain rfl : s = .number l := hl
    obtain ⟨p', v', hp', hv', -, hrender⟩ :=
      exists_value_of_literal owner metadata name hfixed hmheld
    obtain rfl := Option.some.inj (hp'.symm.trans hp)
    obtain rfl := Except.ok.inj (hv'.symm.trans hv)
    exact hrender

/-- If the configuration is an object, its literals are kept. -/
def ConfigurationKept (metadata : Bool) (ms : SourceMembers) (vs : ValueList) : Prop :=
  ∀ inner, configurationOf ms = .object inner → KeepsLiterals metadata inner vs

theorem configurationKept_of_values {ms : SourceMembers}
    (hheld : (Json.object (memberValues ms)).Held) {ps : List Property} {vs : ValueList}
    (hps : propertiesOf (member (memberValues ms) "configuration") = .ok ps)
    (hvs : valuesOfProperties owner metadata ps = .ok vs) : ConfigurationKept metadata ms vs := by
  intro inner hinner
  have hmember : member (memberValues ms) "configuration" = .object (memberValues inner) := by
    rw [member_memberValues]
    exact congrArg Source.value hinner
  have hinnerHeld := held_member hheld "configuration"
  rw [hmember] at hps hinnerHeld
  exact keepsLiterals_of_values hinnerHeld hps hvs

end Configuration

/-! ## Records -/

section Records

variable {name : String} {ms : SourceMembers} (hheld : (Json.object (memberValues ms)).Held)

include hheld

theorem kept_of_linkRecord {r : LinkRecord} (hr : linkRecord name (memberValues ms) = .ok r)
    {l : Link} (hl : Link.ofRecord r = .ok l) : ConfigurationKept true ms l.properties := by
  obtain ⟨ps, hps, hr⟩ := bind_eq_ok_iff.1 hr
  cases hr
  obtain ⟨_, vs, -, -, hvs, rfl⟩ := Link.ofRecord_eq_ok_iff.1 hl
  exact configurationKept_of_values hheld hps hvs

theorem kept_of_noteRecord {r : NoteRecord} (hr : noteRecord name (memberValues ms) = .ok r)
    {a : Note} (ha : Note.ofRecord r = .ok a) : ConfigurationKept true ms a.properties := by
  obtain ⟨ps, hps, hr⟩ := bind_eq_ok_iff.1 hr
  cases hr
  obtain ⟨_, _, vs, -, hvs, rfl⟩ := Note.ofRecord_eq_ok_iff.1 ha
  exact configurationKept_of_values hheld hps hvs

omit hheld in
theorem kept_of_endpointRecord {s : Source} (hheld : s.value.Held) {r : EndpointRecord}
    (hr : endpointRecord s.value = .ok r) {deviceName : String} {e : Endpoint}
    (he : Endpoint.ofRecord deviceName r = .ok e) :
    ConfigurationKept false (sourceMembers s) e.properties := by
  obtain ⟨vs, hvs, he⟩ := bind_eq_ok_iff.1 he
  cases he
  cases s with
  | object ms =>
    obtain ⟨ps, hps, hr⟩ := bind_eq_ok_iff.1 hr
    cases hr
    exact configurationKept_of_values hheld hps hvs
  -- What is no object has no configuration.
  | _ =>
    intro inner hinner
    cases hinner

/-- The parts of a device record that hold properties. -/
theorem deviceRecord_eq_ok {r : DeviceRecord} (hr : deviceRecord name (memberValues ms) = .ok r) :
    propertiesOf (member (memberValues ms) "configuration") = .ok r.properties ∧
      List.Forall₂ (fun s e => s.value.Held ∧ endpointRecord s.value = .ok e) (channelsOf ms)
        r.endpoints := by
  obtain ⟨ps, hps, hr⟩ := bind_eq_ok_iff.1 hr
  obtain ⟨es, hes, hr⟩ := bind_eq_ok_iff.1 hr
  cases hr
  have hchannels := held_of_mem_itemsOf (held_member hheld "channels")
  rw [itemsOf_channels, List.forall_mem_map] at hchannels
  rw [itemsOf_channels, mapM_eq_ok_iff, List.forall₂_map_left_iff] at hes
  exact ⟨hps, (List.forall₂_and_left _ _).2 ⟨hchannels, hes⟩⟩

theorem kept_of_deviceRecord {r : DeviceRecord}
    (hr : deviceRecord name (memberValues ms) = .ok r) :
    (∀ c, Container.ofRecord r = .ok c → ConfigurationKept false ms c.properties) ∧
      ∀ d, Device.ofRecord r = .ok d → ConfigurationKept false ms d.properties ∧
        List.Forall₂ (fun s e => ConfigurationKept false (sourceMembers s) e.properties)
          (channelsOf ms) d.endpoints := by
  obtain ⟨hps, hchannels⟩ := deviceRecord_eq_ok hheld hr
  refine ⟨fun c hc => ?_, fun d hd => ?_⟩
  · obtain ⟨vs, hvs, -, -, hcontainer⟩ := Container.ofRecord_eq_ok_iff.1 hc
    rw [hcontainer]
    exact configurationKept_of_values hheld hps hvs
  · obtain ⟨-, hvs, hes⟩ := Device.ofRecord_eq_ok hd
    refine ⟨configurationKept_of_values hheld hps hvs, ?_⟩
    refine (forall₂_comp hchannels (mapM_eq_ok_iff.1 hes)).imp ?_
    rintro s e ⟨r, ⟨hsheld, hr⟩, he⟩
    exact kept_of_endpointRecord hsheld hr he

end Records

/-! ## Documents -/

theorem entryOf_eq_ok {label : String} {m : Letters × Json} {e : String × Members}
    (h : entryOf label m = .ok e) :
    ∃ inner, m.2 = .object inner ∧ e = (m.1.string, unwrapped inner) := by
  unfold entryOf at h
  split at h
  · next inner hinner =>
    cases h
    exact ⟨inner, hinner, rfl⟩
  · cases h

section Document

variable {α : Type} {convert : String → Members → Except Property.DefinitionFault α}
  {label text : String} {rs : List α}

/-- A document that has records is an object of objects, and each of these makes one. -/
theorem recordsOf_eq_ok {j : Json} (hparse : Json.parse text = .ok j)
    (h : recordsOf convert label text = .ok rs) :
    ∃ members, j = .object members ∧
      List.Forall₂ (fun m r => ∃ inner, m.2 = .object inner ∧
        convert m.1.string (unwrapped inner) = .ok r) members rs := by
  unfold recordsOf at h
  split at h
  · cases h
  · next entries hentries =>
    simp only [entriesOf, hparse, mapError_eq_ok_iff] at hentries h
    unfold entriesOfJson at hentries
    split at hentries
    · next members =>
      refine ⟨members, rfl, ?_⟩
      refine (forall₂_comp (mapM_eq_ok_iff.1 hentries) (mapM_eq_ok_iff.1 h)).imp ?_
      rintro m r ⟨e, he, hr⟩
      obtain ⟨inner, hinner, rfl⟩ := entryOf_eq_ok he
      exact ⟨inner, hinner, hr⟩
    · cases hentries

variable {P : NumberLiteral → Prop} {doc : Source}

/-- Each record is made of the members that its name has in the document. -/
theorem forall₂_recordsOf (h : doc.IsSpelledBy P text)
    (hrs : recordsOf convert label text = .ok rs) :
    List.Forall₂ (fun m r => (Json.object (memberValues (recordMembers m.2))).Held ∧
      convert m.1.string (memberValues (recordMembers m.2)) = .ok r) (sourceMembers doc) rs := by
  have hparse : Json.parse text = .ok doc.value := by
    obtain hparse | ⟨-, f, hparse⟩ := Json.parse_of_isSpelledBy h
    · exact hparse
    · simp [recordsOf, entriesOf, hparse] at hrs
  have hheld := Json.held_of_parse hparse
  obtain ⟨members, hvalue, hall⟩ := recordsOf_eq_ok hparse hrs
  obtain ⟨ms, rfl, rfl⟩ := value_eq_object hvalue
  rw [hvalue, Json.held_object, Json.Source.memberValues_eq, List.forall_mem_map] at hheld
  rw [Json.Source.memberValues_eq, List.forall₂_map_left_iff] at hall
  refine ((List.forall₂_and_left _ _).2 ⟨hheld, hall⟩).imp ?_
  rintro ⟨name, s⟩ r ⟨hs, js, hjs, hr⟩
  obtain ⟨inner, rfl, rfl⟩ := value_eq_object hjs
  rw [unwrapped_memberValues] at hr
  exact ⟨unwrapped_memberValues inner ▸ held_unwrapped hs, hr⟩

end Document

/-- In a document of any category the literals of configurations are kept: as they are for
containers, devices and endpoints, and between quotes for links and notes. -/
theorem literals_of_recordsOf {P : NumberLiteral → Prop} {doc : Source} {text : String}
    (h : doc.IsSpelledBy P text) (label : String) :
    (∀ rs, recordsOf deviceRecord label text = .ok rs → List.Forall₂ (fun m r =>
      (∀ c, Container.ofRecord r = .ok c →
        ConfigurationKept false (recordMembers m.2) c.properties) ∧
      ∀ d, Device.ofRecord r = .ok d →
        ConfigurationKept false (recordMembers m.2) d.properties ∧
        List.Forall₂ (fun s e => ConfigurationKept false (sourceMembers s) e.properties)
          (channelsOf (recordMembers m.2)) d.endpoints) (sourceMembers doc) rs) ∧
    (∀ rs, recordsOf linkRecord label text = .ok rs → List.Forall₂ (fun m r =>
      ∀ l, Link.ofRecord r = .ok l →
        ConfigurationKept true (recordMembers m.2) l.properties) (sourceMembers doc) rs) ∧
    ∀ rs, recordsOf noteRecord label text = .ok rs → List.Forall₂ (fun m r =>
      ∀ a, Note.ofRecord r = .ok a →
        ConfigurationKept true (recordMembers m.2) a.properties) (sourceMembers doc) rs := by
  refine ⟨fun rs hrs => ?_, fun rs hrs => ?_, fun rs hrs => ?_⟩
  · exact (forall₂_recordsOf h hrs).imp fun m r hm => kept_of_deviceRecord hm.1 hm.2
  · exact (forall₂_recordsOf h hrs).imp fun m r hm l => kept_of_linkRecord hm.1 hm.2
  · exact (forall₂_recordsOf h hrs).imp fun m r hm a => kept_of_noteRecord hm.1 hm.2

/-- A zero of too many digits and a sign. -/
def minusZero : NumberLiteral where
  sign := .minus
  whole := ['0']
  fraction := some ['0', '0', '0', '0', '0', '0', '0', '0']
  exponent := none
  isDigit_of_mem := List.all_iff_forall_prop.1 (by decide)
  digits_ne_nil := by decide
  sign_ne_plus := nofun
  whole_ne_nil := by decide
  whole_eq_zero := fun _ => rfl
  fraction_ne_nil := by decide

/-- A record that is a device as well as a note. -/
def zeroSource : Source :=
  .object [("a:b:c", .object [("configuration", .object [("x", .number minusZero)])])]

def zeroText : String :=
  "\x7b\"a:b:c\":\x7b\"configuration\":\x7b\"x\":-0.00000000\x7d\x7d\x7d"

theorem zeroSource_isSpelledBy : zeroSource.IsSpelledBy NumberLiteral.CanBeHeld zeroText := by
  have hheld : minusZero.CanBeHeld := by
    change Decimal.InRange _
    decide
  have hdevice : ∀ c ∈ "a:b:c".toList, Json.IsPlain c :=
    List.all_iff_forall_prop.1 (by decide)
  have hconfiguration : ∀ c ∈ "configuration".toList, Json.IsPlain c :=
    List.all_iff_forall_prop.1 (by decide)
  have hx : ∀ c ∈ "x".toList, Json.IsPlain c :=
    List.all_iff_forall_prop.1 (by decide)
  exact ⟨[], _, [], rfl, List.forall_mem_nil _, List.forall_mem_nil _,
    Json.spells_single hdevice (Json.spells_single hconfiguration
      (Json.spells_single hx (.number hheld)))⟩

theorem assignments_of_minusZero {metadata : Bool} {vs : ValueList}
    (h : KeepsLiterals metadata [("x", .number minusZero)] vs) :
    vs.map Value.assignment = ["x=" ++ literal metadata "-0.00000000"] := by
  have hfixed : minusZero.IsFixed := ⟨nofun, rfl⟩
  change List.Forall₂ _ [(("x" : Letters), Source.number minusZero)] vs at h
  obtain _ | ⟨⟨hname, hrender⟩, htail⟩ := h
  cases htail
  rw [List.map_singleton, Value.assignment, hname, hrender minusZero rfl hfixed]
  rfl

theorem literals_of_zeroText :
    (∃ r d, recordsOf deviceRecord "home" zeroText = .ok [r] ∧ Device.ofRecord r = .ok d ∧
      d.properties.map Value.assignment = ["x=-0.00000000"]) ∧
    ∃ r a, recordsOf noteRecord "home" zeroText = .ok [r] ∧ Note.ofRecord r = .ok a ∧
      a.properties.map Value.assignment = ["x=\"-0.00000000\""] := by
  obtain ⟨hdevices, -, hnotes⟩ := literals_of_recordsOf zeroSource_isSpelledBy "home"
  have hdevice : ∃ r d, recordsOf deviceRecord "home" zeroText = .ok [r] ∧
      Device.ofRecord r = .ok d := by
    rw [recordsOf, entriesOf, Json.parse_of_canBeHeld zeroSource_isSpelledBy]
    exact ⟨_, _, rfl, rfl⟩
  have hnote : ∃ r a, recordsOf noteRecord "home" zeroText = .ok [r] ∧
      Note.ofRecord r = .ok a := by
    rw [recordsOf, entriesOf, Json.parse_of_canBeHeld zeroSource_isSpelledBy]
    exact ⟨_, _, rfl, rfl⟩
  obtain ⟨r, d, hr, hd⟩ := hdevice
  obtain ⟨n, a, hn, ha⟩ := hnote
  obtain _ | ⟨hkept, -⟩ := hdevices [r] hr
  obtain _ | ⟨hquoted, -⟩ := hnotes [n] hn
  exact ⟨⟨r, d, hr, hd, assignments_of_minusZero ((hkept.2 d hd).1 _ rfl)⟩,
    ⟨n, a, hn, ha, assignments_of_minusZero (hquoted a ha _ rfl)⟩⟩

end HomeCatalog.Database
