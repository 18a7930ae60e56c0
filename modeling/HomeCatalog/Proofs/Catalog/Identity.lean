import HomeCatalog.Proofs.Catalog.WrittenIds

/-!
# Missing ids

What a catalog is made of is known by its ids and names, and the builders see to it that these are
there: a segment of the id of a container or a device, the type of a variable, both ends of a link
and both parts of a note's name are never empty (`identified_of_ofRecords`). Two of them are not
looked at. An endpoint has the last segment of its full id, even if nothing stands there, and a
variable has the name of its record, even if that is empty. Both are written all the same
(`unnamed_is_written`).

A catalog has an endpoint or a variable without an id exactly if a selected record has one.
-/

namespace HomeCatalog

/-! ## Ids -/

/-- A text that a colon can stand before and after in an id. -/
def IsSegment (s : String) : Prop :=
  s ≠ "" ∧ ':' ∉ s.toList

/-- Nothing stands after the last colon of the full id. -/
def EndpointRecord.Nameless (r : EndpointRecord) : Prop :=
  r.uid = "" ∨ ∃ s, r.uid = s ++ ":"

/-- What is known by an id or a name has one, endpoints and variables aside; of these it is known
which records leave them without. -/
structure Identified (selects : String → Bool) (records : RecordSet) (c : Catalog) : Prop where
  containers : ∀ k ∈ c.containers, ∀ s ∈ k.segments, IsSegment s
  devices : ∀ d ∈ c.allDevices, ∀ s ∈ d.segments, IsSegment s
  endpoints : ∀ d ∈ c.allDevices, ∀ e ∈ d.endpoints, ':' ∉ e.id.toList
  /-- An endpoint has no id exactly if its record has none. -/
  namelessEndpoint : (∃ d ∈ c.allDevices, ∃ e ∈ d.endpoints, e.id = "") ↔
    ∃ r ∈ selectedRecords selects records.devices, ∃ e ∈ r.endpoints, e.Nameless
  types : ∀ v ∈ c.vars, v.dataType ≠ ""
  /-- A variable has no name exactly if its record has none. -/
  namelessVariable : (∃ v ∈ c.vars, v.name = "") ↔
    ∃ r ∈ selectedVariables selects records.vars, r.name = ""
  links : ∀ v ∈ c.vars, ∀ l, .link l ∈ v.entries → l.variableName ≠ "" ∧ l.endpointId ≠ ""
  notes : ∀ v ∈ c.vars, ∀ a, .note a ∈ v.entries →
    IsSegment a.namespaceId ∧ a.variableName ≠ ""
  /-- As links and notes name what they are attached to, nothing is attached to a variable without
  a name. -/
  unattached : ∀ v ∈ c.vars, v.name = "" → v.entries = []

/-! ## One record -/

theorem Endpoint.id_of_ofRecord {deviceName : String} {r : EndpointRecord} {e : Endpoint}
    (h : Endpoint.ofRecord deviceName r = .ok e) : (Text.split ':' r.uid).getLast? = some e.id := by
  obtain ⟨properties, -, h⟩ := bind_eq_ok_iff.1 h
  cases h
  rw [List.getLast?_eq_some_getLast (Text.split_ne_nil ':' r.uid)]
  rfl

theorem Endpoint.id_eq_empty_iff {deviceName : String} {r : EndpointRecord} {e : Endpoint}
    (h : Endpoint.ofRecord deviceName r = .ok e) : e.id = "" ↔ r.Nameless := by
  have hlast : (Text.split ':' r.uid).getLast? = some "" ↔ r.Nameless :=
    Text.getLast?_split_eq_empty_iff
  rw [Endpoint.id_of_ofRecord h, Option.some_inj] at hlast
  exact hlast

theorem Endpoint.not_mem_id {deviceName : String} {r : EndpointRecord} {e : Endpoint}
    (h : Endpoint.ofRecord deviceName r = .ok e) : ':' ∉ e.id.toList :=
  Text.not_mem_of_mem_split (List.mem_of_getLast? (Endpoint.id_of_ofRecord h))

theorem Device.isSegment_of_ofRecord {r : DeviceRecord} {d : Device}
    (h : Device.ofRecord r = .ok d) : ∀ s ∈ d.segments, IsSegment s := by
  obtain ⟨-, hne, -⟩ := deviceIds_eq_ok_iff.1 (Device.ofRecord_eq_ok h).1
  have hs := Device.split_uid_of_ofRecord h
  exact fun s hmem => ⟨hne s hmem, Text.not_mem_of_mem_split (hs ▸ hmem)⟩

theorem Container.isSegment_of_ofRecord {r : DeviceRecord} {c : Container}
    (h : Container.ofRecord r = .ok c) : ∀ s ∈ c.segments, IsSegment s := by
  obtain ⟨-, -, hs, hne, -⟩ := Container.ofRecord_eq_ok_iff.1 h
  exact fun s hmem => ⟨hne s hmem, Text.not_mem_of_mem_split (hs ▸ hmem)⟩

theorem Variable.dataType_of_ofRecord {r : VariableRecord} {v : Variable}
    (h : Variable.ofRecord r = .ok v) : v.dataType ≠ "" := by
  unfold Variable.ofRecord at h
  split at h
  · cases h
  · next ht =>
    cases h
    simpa using ht

theorem LinkRecord.variableName_ne_empty {r : LinkRecord} {name : String}
    (h : r.variableName? = some name) : name ≠ "" := by
  have hgiven : ∀ {s : Option String}, given s = some name → name ≠ "" := fun hs => by
    simpa using (Option.filter_eq_some_iff.1 hs).2
  unfold LinkRecord.variableName? at h
  split at h
  · next hn =>
    cases h
    exact hgiven hn
  · exact hgiven h

theorem Link.ends_of_ofRecord {r : LinkRecord} {l : Link} (h : Link.ofRecord r = .ok l) :
    l.variableName ≠ "" ∧ l.endpointId ≠ "" := by
  refine ⟨LinkRecord.variableName_ne_empty (Link.variableName_of_ofRecord h), ?_⟩
  obtain ⟨variableName, properties, -, hchannel, -, rfl⟩ := Link.ofRecord_eq_ok_iff.1 h
  exact hchannel

theorem Note.isSegment_of_ofRecord {r : NoteRecord} {a : Note} (h : Note.ofRecord r = .ok a) :
    IsSegment a.namespaceId ∧ a.variableName ≠ "" := by
  obtain ⟨namespaceId, variableName, properties, hparts, -, rfl⟩ := Note.ofRecord_eq_ok_iff.1 h
  obtain ⟨-, hcolon, hns, hname⟩ := NoteRecord.parts?_eq_some_iff.1 hparts
  exact ⟨⟨hns, hcolon⟩, hname⟩

/-! ## What is built -/

section Built

variable {selects : String → Bool} {records : RecordSet} {c : Catalog}
  (h : Catalog.ofRecords selects records = .ok c)

include h

theorem buildVariables_of_ofRecords :
    buildVariables selects records.vars records.links records.notes = .ok c.vars := by
  obtain ⟨⟨containers, devices⟩, -, h⟩ := bind_eq_ok_iff.1 h
  obtain ⟨vars, hvars, h⟩ := bind_eq_ok_iff.1 h
  cases h
  exact hvars

/-- The devices, wherever they are, are those of the selected records. -/
theorem exists_describes_allDevices :
    (∀ d ∈ c.allDevices, ∃ r ∈ selectedRecords selects records.devices, Device.ofRecord r = .ok d) ∧
      ∀ r ∈ selectedRecords selects records.devices, ∃ d ∈ c.allDevices,
        Device.ofRecord r = .ok d := by
  obtain ⟨all, hall, hperm⟩ := exists_describes_perm (buildDevices_of_ofRecords h)
  constructor
  · intro d hd
    obtain ⟨r, hr, hdesc, -⟩ := exists_left_of_mem hall (hperm.mem_iff.1 hd)
    exact ⟨r, hr, hdesc⟩
  · intro r hr
    obtain ⟨d, hd, hdesc, -⟩ := exists_right_of_mem hall hr
    exact ⟨d, hperm.mem_iff.2 hd, hdesc⟩

theorem isSegment_of_mem_containers : ∀ k ∈ c.containers, ∀ s ∈ k.segments, IsSegment s := by
  intro k hk
  obtain ⟨bridges, -, hb⟩ := describesContainer_containers (buildDevices_of_ofRecords h)
  obtain ⟨r, -, hr, -⟩ := exists_left_of_mem hb hk
  -- What is built from the record is `k` without its children, which has the same segments.
  have hsegments := Container.isSegment_of_ofRecord hr
  exact hsegments

theorem isSegment_of_mem_allDevices : ∀ d ∈ c.allDevices, ∀ s ∈ d.segments, IsSegment s := by
  intro d hd
  obtain ⟨r, -, hr⟩ := (exists_describes_allDevices h).1 d hd
  exact Device.isSegment_of_ofRecord hr

theorem not_mem_id_of_mem_allDevices :
    ∀ d ∈ c.allDevices, ∀ e ∈ d.endpoints, ':' ∉ e.id.toList := by
  intro d hd e he
  obtain ⟨r, -, hr⟩ := (exists_describes_allDevices h).1 d hd
  obtain ⟨-, -, hendpoints⟩ := Device.ofRecord_eq_ok hr
  obtain ⟨p, -, hp⟩ := exists_left_of_mem (mapM_eq_ok_iff.1 hendpoints) he
  exact Endpoint.not_mem_id hp

theorem exists_nameless_endpoint_iff :
    (∃ d ∈ c.allDevices, ∃ e ∈ d.endpoints, e.id = "") ↔
      ∃ r ∈ selectedRecords selects records.devices, ∃ e ∈ r.endpoints, e.Nameless := by
  obtain ⟨hrecord, hdevice⟩ := exists_describes_allDevices h
  constructor
  · rintro ⟨d, hd, e, he, hid⟩
    obtain ⟨r, hr, hrd⟩ := hrecord d hd
    obtain ⟨-, -, hendpoints⟩ := Device.ofRecord_eq_ok hrd
    obtain ⟨p, hp, hpe⟩ := exists_left_of_mem (mapM_eq_ok_iff.1 hendpoints) he
    exact ⟨r, hr, p, hp, (Endpoint.id_eq_empty_iff hpe).1 hid⟩
  · rintro ⟨r, hr, p, hp, hless⟩
    obtain ⟨d, hd, hrd⟩ := hdevice r hr
    obtain ⟨-, -, hendpoints⟩ := Device.ofRecord_eq_ok hrd
    obtain ⟨e, he, hpe⟩ := exists_right_of_mem (mapM_eq_ok_iff.1 hendpoints) hp
    exact ⟨d, hd, e, he, (Endpoint.id_eq_empty_iff hpe).2 hless⟩

theorem dataType_of_mem_vars : ∀ v ∈ c.vars, v.dataType ≠ "" := by
  intro v hv
  obtain ⟨r, -, hr, -⟩ :=
    exists_left_of_mem (describes_variables (buildVariables_of_ofRecords h)) hv
  have htype := Variable.dataType_of_ofRecord hr
  exact htype

theorem exists_nameless_variable_iff :
    (∃ v ∈ c.vars, v.name = "") ↔ ∃ r ∈ selectedVariables selects records.vars, r.name = "" := by
  have hnames := map_name_variables (buildVariables_of_ofRecords h)
  rw [← List.mem_map, hnames, List.mem_map]

theorem ends_of_mem_links {v : Variable} (hv : v ∈ c.vars) {l : Link} (hl : .link l ∈ v.entries) :
    l.variableName ≠ "" ∧ l.endpointId ≠ "" := by
  rcases exists_record_of_mem_entries (buildVariables_of_ofRecords h) hv hl with
    ⟨r, -, _, hr, he⟩ | ⟨_, -, _, -, he⟩
  · cases he
    exact Link.ends_of_ofRecord hr
  · cases he

theorem parts_of_mem_notes {v : Variable} (hv : v ∈ c.vars) {a : Note}
    (ha : .note a ∈ v.entries) : IsSegment a.namespaceId ∧ a.variableName ≠ "" := by
  rcases exists_record_of_mem_entries (buildVariables_of_ofRecords h) hv ha with
    ⟨_, -, _, -, he⟩ | ⟨r, -, _, hr, he⟩
  · cases he
  · cases he
    exact Note.isSegment_of_ofRecord hr

/-- What is attached to a variable has its name, which is not empty. -/
theorem entries_eq_nil_of_nameless {v : Variable} (hv : v ∈ c.vars) (hname : v.name = "") :
    v.entries = [] := by
  refine List.eq_nil_iff_forall_not_mem.2 fun e he => ?_
  have hsame := variableName_of_mem_entries (buildVariables_of_ofRecords h) hv he
  rw [hname] at hsame
  cases e with
  | link l => exact (ends_of_mem_links h hv he).1 hsame
  | note a => exact (parts_of_mem_notes h hv he).2 hsame

end Built

/-- Nothing that is built lacks an id, but for the endpoints and the variables whose records do. -/
theorem identified_of_ofRecords {selects : String → Bool} {records : RecordSet} {c : Catalog}
    (h : Catalog.ofRecords selects records = .ok c) : Identified selects records c where
  containers := isSegment_of_mem_containers h
  devices := isSegment_of_mem_allDevices h
  endpoints := not_mem_id_of_mem_allDevices h
  namelessEndpoint := exists_nameless_endpoint_iff h
  types := dataType_of_mem_vars h
  namelessVariable := exists_nameless_variable_iff h
  links := fun _ hv _ hl => ends_of_mem_links h hv hl
  notes := fun _ hv _ ha => parts_of_mem_notes h hv ha
  unattached := fun _ hv hname => entries_eq_nil_of_nameless h hv hname

/-- A child with an endpoint that has an id and one that has none, and a variable with a link and a
note. -/
theorem identified_of_lamp :
    ∃ c, Catalog.ofRecords (fun _ => true)
        { devices := [{ name := "bridge", uid := "hue:bridge:b1", isBridge := true },
            { name := "lamp", uid := "hue:0210:b1:lamp", bridgeUid := some "hue:bridge:b1",
              endpoints := [{ uid := "hue:0210:b1:lamp:on" }, { uid := "hue:0210:b1:lamp:" }] }],
          vars := [{ name := "Light", itemType := "Switch" }],
          links := [
            { name := "Light -> hue:0210:b1:lamp:on", channelUid := "hue:0210:b1:lamp:on" }],
          notes := [{ name := "ga:Light", value := "Light" }] } = .ok c ∧
      Identified (fun _ => true)
        { devices := [{ name := "bridge", uid := "hue:bridge:b1", isBridge := true },
            { name := "lamp", uid := "hue:0210:b1:lamp", bridgeUid := some "hue:bridge:b1",
              endpoints := [{ uid := "hue:0210:b1:lamp:on" }, { uid := "hue:0210:b1:lamp:" }] }],
          vars := [{ name := "Light", itemType := "Switch" }],
          links := [
            { name := "Light -> hue:0210:b1:lamp:on", channelUid := "hue:0210:b1:lamp:on" }],
          notes := [{ name := "ga:Light", value := "Light" }] } c :=
  ⟨_, rfl, identified_of_ofRecords rfl⟩

/-- An endpoint and a variable without an id, each in a line of its stream. -/
theorem unnamed_is_written :
    ∃ c, Catalog.ofRecords (fun _ => true)
        { devices := [{ name := "plug", uid := "acme:switch:plug", endpoints := [{ uid := "" }] }],
          vars := [{ name := "", itemType := "Switch" }] } = .ok c ∧
      (∃ d ∈ c.devices, ∃ e ∈ d.endpoints, e.id = "" ∧
        e.render { includeDefaultEndpoints := true } 4 = "    State String : \r\n") ∧
      ∃ v ∈ c.vars, v.name = "" ∧ v.render {} = "Switch \r\n" :=
  ⟨_, rfl, ⟨_, .head _, _, .head _, rfl, by decide⟩, ⟨_, .head _, rfl, by decide⟩⟩

end HomeCatalog
