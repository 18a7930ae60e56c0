import HomeCatalog.Proofs.Catalog.Attachment
import HomeCatalog.Proofs.Catalog.Placement
import HomeCatalog.Proofs.Value.Inference

/-!
# What keeps records from making a catalog

A catalog is refused exactly for bad input (`refusal_of_ofRecords`): for the id or a property of any
container, selected or not, and for what is wrong with a selected device, link, note or variable.
`BadInput` says so record by record, in terms of the records alone. A record that is neither a
container nor selected changes nothing: record sets that agree on all others make the same catalog,
or are refused for the same fault.

Each builder gets one lemma that says when it gives a result (`exists_container_iff`,
`exists_device_iff`, …), and the lists of records are put together from these by
`exists_mapM_eq_ok_iff`.
-/

namespace HomeCatalog

/-! ## Results and faults -/

section Faults

universe u

variable {ε α β : Type u}

theorem exists_error_iff {x : Except ε α} : (∃ e, x = .error e) ↔ ¬ ∃ a, x = .ok a := by
  cases x <;> simp

theorem exists_bind_eq_ok_iff {x : Except ε α} {f : α → Except ε β} :
    (∃ b, (x >>= f) = .ok b) ↔ ∃ a, x = .ok a ∧ ∃ b, f a = .ok b := by
  simp only [bind_eq_ok_iff]
  constructor
  · rintro ⟨b, a, ha, hb⟩
    exact ⟨a, ha, b, hb⟩
  · rintro ⟨a, ha, b, hb⟩
    exact ⟨b, a, ha, hb⟩

/-- A list is built exactly if each of its records is. -/
theorem exists_mapM_eq_ok_iff {f : α → Except ε β} {xs : List α} :
    (∃ ys, xs.mapM f = .ok ys) ↔ ∀ x ∈ xs, ∃ y, f x = .ok y := by
  constructor
  · rintro ⟨ys, hys⟩ x hx
    obtain ⟨y, -, hy⟩ := exists_right_of_mem (mapM_eq_ok_iff.1 hys) hx
    exact ⟨y, hy⟩
  · intro h
    rcases mapM_ok_or_error f xs with hys | ⟨x, hx, e, he, -⟩
    · exact hys
    · obtain ⟨y, hy⟩ := h x hx
      rw [he] at hy
      cases hy

end Faults

/-! ## Bad records -/

/-- The kind that the property declares does not take its text. Texts are never refused for being no
text, so the kind is that of integers, decimals or truth values. -/
def Property.Invalid (p : Property) : Prop :=
  ∃ k, p.kind? = some k ∧ ¬ k.Takes p.raw

/-- So many segments between the colons, none of them empty. -/
def IsId (count : Nat) (uid : String) : Prop :=
  (Text.split ':' uid).length = count ∧ ∀ s ∈ Text.split ':' uid, s ≠ ""

/-- What makes the record of a container bad. -/
inductive DeviceRecord.BadContainer (r : DeviceRecord) : Prop
  | id (h : ¬ IsId 3 r.uid)
  | property (p : Property) (hp : p ∈ r.properties) (h : p.Invalid)

/-- What makes the record of a device bad, other records aside. -/
inductive DeviceRecord.BadDevice (r : DeviceRecord) : Prop
  | host (uid : String) (hu : given r.bridgeUid = some uid) (h : ¬ IsId 3 uid)
  | hostedId (uid : String) (hu : given r.bridgeUid = some uid) (h : ¬ IsId 4 r.uid)
  | standaloneId (hu : given r.bridgeUid = none) (h : ¬ IsId 3 r.uid)
  | property (p : Property) (hp : p ∈ r.properties) (h : p.Invalid)
  | endpointProperty (e : EndpointRecord) (he : e ∈ r.endpoints) (p : Property)
      (hp : p ∈ e.properties) (h : p.Invalid)

/-- What makes the record of a link bad. -/
inductive LinkRecord.Bad (r : LinkRecord) : Prop
  | unresolved (h : r.variableName? = none)
  | endpoint (h : r.channelUid = "")
  | property (p : Property) (hp : p ∈ r.properties) (h : p.Invalid)

/-- What makes the record of a note bad. -/
inductive NoteRecord.Bad (r : NoteRecord) : Prop
  | name (h : ¬ ∃ namespaceId variableName, r.name = namespaceId ++ ":" ++ variableName ∧
      ':' ∉ namespaceId.toList ∧ namespaceId ≠ "" ∧ variableName ≠ "")
  | property (p : Property) (hp : p ∈ r.properties) (h : p.Invalid)

/-- What makes a set of records bad: any container, and what is selected of the rest. -/
inductive BadInput (selects : String → Bool) (records : RecordSet) : Prop
  | container (r : DeviceRecord) (hr : r ∈ records.devices) (hb : r.isBridge = true)
      (h : r.BadContainer)
  | device (r : DeviceRecord) (hr : r ∈ selectedRecords selects records.devices)
      (h : r.BadDevice)
  /-- No record of a container has the id that a device names. -/
  | unknownHost (r : DeviceRecord) (hr : r ∈ selectedRecords selects records.devices)
      (uid : String) (hu : given r.bridgeUid = some uid)
      (h : ∀ b ∈ records.devices, b.isBridge = true → b.uid ≠ uid)
  | link (r : LinkRecord) (hr : r ∈ records.links) (hs : selects r.name = true) (h : r.Bad)
  | note (r : NoteRecord) (hr : r ∈ records.notes) (hs : selects r.name = true) (h : r.Bad)
  | vars (r : VariableRecord) (hr : r ∈ records.vars) (hs : selects r.name = true)
      (h : r.itemType = "")

/-! ## Ids -/

theorem exists_threeSegments_iff {owner : Owner} {field uid : String} :
    (∃ s, threeSegments owner field uid = .ok s) ↔ IsId 3 uid := by
  constructor
  · rintro ⟨⟨a, b, c⟩, h⟩
    obtain ⟨hs, ha, hb, hc⟩ := threeSegments_eq_ok_iff.1 h
    rw [IsId, hs]
    simp [ha, hb, hc]
  · rintro ⟨hlength, hne⟩
    obtain ⟨a, b, c, hs⟩ := List.length_eq_three.1 hlength
    rw [hs] at hne
    simp only [List.mem_cons, List.not_mem_nil, or_false, forall_eq_or_imp, forall_eq] at hne
    exact ⟨(a, b, c), threeSegments_eq_ok_iff.2 ⟨hs, hne⟩⟩

theorem exists_fourSegments_iff {owner : Owner} {field uid : String} :
    (∃ s, fourSegments owner field uid = .ok s) ↔ IsId 4 uid := by
  constructor
  · rintro ⟨⟨a, b, c, d⟩, h⟩
    obtain ⟨hs, ha, hb, hc, hd⟩ := fourSegments_eq_ok_iff.1 h
    rw [IsId, hs]
    simp [ha, hb, hc, hd]
  · rintro ⟨hlength, hne⟩
    match hs : Text.split ':' uid, hlength with
    | [a, b, c, d], _ =>
      rw [hs] at hne
      simp only [List.mem_cons, List.not_mem_nil, or_false, forall_eq_or_imp, forall_eq] at hne
      exact ⟨(a, b, c, d), fourSegments_eq_ok_iff.2 ⟨hs, hne⟩⟩

/-! ## Properties -/

/-- The kind of a property that declares none is inferred, and so takes the text. -/
theorem Property.fault?_valueIn_eq_none_iff (p : Property) (metadata : Bool) :
    (p.valueIn metadata).fault? = none ↔ ¬ p.Invalid := by
  rw [Value.fault?_eq_none_iff, Property.valueIn, Property.Invalid]
  cases p.kind? with
  | none =>
    simp only [Option.getD_none, reduceCtorEq, false_and, exists_false, not_false_eq_true, iff_true]
    exact ValueKind.takes_infer p.raw
  | some k => simp

theorem exists_valuesOfProperties_iff {owner : Owner} {metadata : Bool} {ps : List Property} :
    (∃ vs, valuesOfProperties owner metadata ps = .ok vs) ↔ ∀ p ∈ ps, ¬ p.Invalid := by
  rw [valuesOfProperties, exists_mapM_eq_ok_iff]
  refine forall₂_congr fun p _ => ?_
  rw [← p.fault?_valueIn_eq_none_iff metadata]
  constructor
  · rintro ⟨v, hv⟩
    exact (valueOfProperty_eq_ok_iff.1 hv).2
  · intro h
    exact ⟨_, valueOfProperty_eq_ok_iff.2 ⟨rfl, h⟩⟩

/-! ## One record -/

theorem exists_container_iff {r : DeviceRecord} :
    (∃ c, Container.ofRecord r = .ok c) ↔ ¬ r.BadContainer := by
  unfold Container.ofRecord
  rw [exists_bind_eq_ok_iff]
  constructor
  · rintro ⟨s, hs, c, hc⟩ hbad
    obtain ⟨properties, hp, -⟩ := bind_eq_ok_iff.1 hc
    cases hbad with
    | id h => exact h (exists_threeSegments_iff.1 ⟨s, hs⟩)
    | property p hmem h => exact exists_valuesOfProperties_iff.1 ⟨properties, hp⟩ p hmem h
  · intro h
    have hid : IsId 3 r.uid := by
      by_contra hid
      exact h (.id hid)
    obtain ⟨s, hs⟩ := exists_threeSegments_iff.2 hid
    obtain ⟨properties, hp⟩ : ∃ vs, valuesOfProperties (.container r.name) false r.properties =
        .ok vs := exists_valuesOfProperties_iff.2 fun p hp hbad => h (.property p hp hbad)
    exact ⟨s, hs, _, bind_eq_ok_iff.2 ⟨properties, hp, rfl⟩⟩

theorem exists_endpoint_iff {deviceName : String} {r : EndpointRecord} :
    (∃ e, Endpoint.ofRecord deviceName r = .ok e) ↔ ∀ p ∈ r.properties, ¬ p.Invalid := by
  unfold Endpoint.ofRecord
  rw [exists_bind_eq_ok_iff, ← exists_valuesOfProperties_iff]
  constructor
  · rintro ⟨properties, hp, -⟩
    exact ⟨properties, hp⟩
  · rintro ⟨properties, hp⟩
    exact ⟨properties, hp, _, rfl⟩

theorem exists_deviceIds_iff {r : DeviceRecord} :
    (∃ i, deviceIds r = .ok i) ↔
      (∀ uid, given r.bridgeUid = some uid → IsId 3 uid ∧ IsId 4 r.uid) ∧
        (given r.bridgeUid = none → IsId 3 r.uid) := by
  unfold deviceIds
  split
  · next uid hu =>
    rw [exists_bind_eq_ok_iff]
    simp only [hu, Option.some.injEq, forall_eq', reduceCtorEq, false_implies, and_true]
    constructor
    · rintro ⟨s, hs, i, hi⟩
      obtain ⟨s', hs', -⟩ := bind_eq_ok_iff.1 hi
      exact ⟨exists_threeSegments_iff.1 ⟨s, hs⟩, exists_fourSegments_iff.1 ⟨s', hs'⟩⟩
    · rintro ⟨hhost, hid⟩
      obtain ⟨s, hs⟩ := exists_threeSegments_iff.2 hhost
      obtain ⟨s', hs'⟩ := exists_fourSegments_iff.2 hid
      exact ⟨s, hs, _, bind_eq_ok_iff.2 ⟨s', hs', rfl⟩⟩
  · next hu =>
    rw [exists_bind_eq_ok_iff]
    simp only [hu, reduceCtorEq, false_implies, implies_true, true_and, true_implies]
    constructor
    · rintro ⟨s, hs, -⟩
      exact exists_threeSegments_iff.1 ⟨s, hs⟩
    · intro hid
      obtain ⟨s, hs⟩ := exists_threeSegments_iff.2 hid
      exact ⟨s, hs, _, rfl⟩

theorem exists_device_iff {r : DeviceRecord} :
    (∃ d, Device.ofRecord r = .ok d) ↔ ¬ r.BadDevice := by
  constructor
  · rintro ⟨d, hd⟩ hbad
    obtain ⟨hi, hp, he⟩ := Device.ofRecord_eq_ok hd
    obtain ⟨hhosted, hstandalone⟩ := exists_deviceIds_iff.1 ⟨_, hi⟩
    cases hbad with
    | host uid hu h => exact h (hhosted uid hu).1
    | hostedId uid hu h => exact h (hhosted uid hu).2
    | standaloneId hu h => exact h (hstandalone hu)
    | property p hmem h => exact exists_valuesOfProperties_iff.1 ⟨_, hp⟩ p hmem h
    | endpointProperty e hmem p hpmem h =>
      have hbuilt := exists_mapM_eq_ok_iff.1 ⟨_, he⟩ e hmem
      exact exists_endpoint_iff.1 hbuilt p hpmem h
  · intro h
    have hids : ∃ i, deviceIds r = .ok i := by
      refine exists_deviceIds_iff.2 ⟨fun uid hu => ⟨?_, ?_⟩, fun hu => ?_⟩
      · by_contra hid
        exact h (.host uid hu hid)
      · by_contra hid
        exact h (.hostedId uid hu hid)
      · by_contra hid
        exact h (.standaloneId hu hid)
    obtain ⟨i, hi⟩ := hids
    obtain ⟨properties, hp⟩ : ∃ vs, valuesOfProperties (.device r.name) false r.properties =
        .ok vs := exists_valuesOfProperties_iff.2 fun p hp hbad => h (.property p hp hbad)
    obtain ⟨endpoints, he⟩ : ∃ es, r.endpoints.mapM (Endpoint.ofRecord r.name) = .ok es :=
      exists_mapM_eq_ok_iff.2 fun e he =>
        exists_endpoint_iff.2 fun p hp hbad => h (.endpointProperty e he p hp hbad)
    exact ⟨_, bind_eq_ok_iff.2 ⟨i, hi, bind_eq_ok_iff.2 ⟨properties, hp,
      bind_eq_ok_iff.2 ⟨endpoints, he, rfl⟩⟩⟩⟩

theorem exists_link_iff {r : LinkRecord} : (∃ l, Link.ofRecord r = .ok l) ↔ ¬ r.Bad := by
  simp only [Link.ofRecord_eq_ok_iff]
  constructor
  · rintro ⟨l, variableName, properties, hn, hc, hp, -⟩ hbad
    cases hbad with
    | unresolved h =>
      rw [hn] at h
      cases h
    | endpoint h => exact hc h
    | property p hmem h => exact exists_valuesOfProperties_iff.1 ⟨_, hp⟩ p hmem h
  · intro h
    obtain ⟨variableName, hn⟩ : ∃ n, r.variableName? = some n := by
      rw [← Option.ne_none_iff_exists']
      exact fun hn => h (.unresolved hn)
    obtain ⟨properties, hp⟩ : ∃ vs, valuesOfProperties (.link r.name) true r.properties = .ok vs :=
      exists_valuesOfProperties_iff.2 fun p hp hbad => h (.property p hp hbad)
    exact ⟨_, variableName, properties, hn, fun hc => h (.endpoint hc), hp, rfl⟩

theorem exists_note_iff {r : NoteRecord} : (∃ a, Note.ofRecord r = .ok a) ↔ ¬ r.Bad := by
  simp only [Note.ofRecord_eq_ok_iff]
  constructor
  · rintro ⟨a, namespaceId, variableName, properties, hn, hp, -⟩ hbad
    cases hbad with
    | name h => exact h ⟨namespaceId, variableName, NoteRecord.parts?_eq_some_iff.1 hn⟩
    | property p hmem h => exact exists_valuesOfProperties_iff.1 ⟨_, hp⟩ p hmem h
  · intro h
    obtain ⟨namespaceId, variableName, hn⟩ : ∃ n v, r.parts? = some (n, v) := by
      simp only [NoteRecord.parts?_eq_some_iff]
      by_contra hn
      exact h (.name hn)
    obtain ⟨properties, hp⟩ : ∃ vs, valuesOfProperties (.note r.name) true r.properties = .ok vs :=
      exists_valuesOfProperties_iff.2 fun p hp hbad => h (.property p hp hbad)
    exact ⟨_, namespaceId, variableName, properties, hn, hp, rfl⟩

theorem exists_variable_iff {r : VariableRecord} :
    (∃ v, Variable.ofRecord r = .ok v) ↔ r.itemType ≠ "" := by
  unfold Variable.ofRecord
  by_cases h : r.itemType = "" <;> simp [h]

/-! ## All records -/

/-- The devices are built and placed exactly if no record is bad and every container that is named
has a record. -/
theorem exists_buildDevices_iff {selects : String → Bool} {records : List DeviceRecord} :
    (∃ b, buildDevices selects records = .ok b) ↔
      (∀ r ∈ records, r.isBridge = true → ¬ r.BadContainer) ∧
        ∀ r ∈ selectedRecords selects records, ¬ r.BadDevice ∧
          ∀ uid, given r.bridgeUid = some uid →
            ∃ b ∈ records, b.isBridge = true ∧ b.uid = uid := by
  -- The ids at hand are those of the records, whatever else was built from these.
  have huids : ∀ {built : List Container},
      (records.filter (·.isBridge)).mapM Container.ofRecord = .ok built → ∀ uid,
        uid ∈ built.map (·.uid) ↔ ∃ b ∈ records, b.isBridge = true ∧ b.uid = uid := by
    intro built hb uid
    rw [List.mem_map]
    constructor
    · rintro ⟨c, hc, rfl⟩
      obtain ⟨r, hr, hrc⟩ := exists_left_of_mem (mapM_eq_ok_iff.1 hb) hc
      obtain ⟨hmem, hbridge⟩ := List.mem_filter.1 hr
      exact ⟨r, hmem, hbridge, (Container.uid_of_ofRecord hrc).symm⟩
    · rintro ⟨r, hmem, hbridge, rfl⟩
      obtain ⟨c, hc, hrc⟩ :=
        exists_right_of_mem (mapM_eq_ok_iff.1 hb) (List.mem_filter.2 ⟨hmem, hbridge⟩)
      exact ⟨c, hc, Container.uid_of_ofRecord hrc⟩
  constructor
  · rintro ⟨⟨containers, devices⟩, h⟩
    obtain ⟨built, placed, hb, hp, -, -⟩ := buildDevices_eq_ok_iff.1 h
    refine ⟨fun r hr hbridge => ?_, fun r hr => ?_⟩
    · exact exists_container_iff.1
        (exists_mapM_eq_ok_iff.1 ⟨built, hb⟩ r (List.mem_filter.2 ⟨hr, hbridge⟩))
    · obtain ⟨⟨host, d⟩, hplaced⟩ := exists_mapM_eq_ok_iff.1 ⟨placed, hp⟩ r hr
      obtain ⟨hd, rfl, hknown⟩ := placedDevice_eq_ok_iff.1 hplaced
      exact ⟨exists_device_iff.1 ⟨d, hd⟩, fun uid hu => (huids hb uid).1 (hknown uid hu)⟩
  · rintro ⟨hcontainers, hdevices⟩
    obtain ⟨built, hb⟩ : ∃ cs, (records.filter (·.isBridge)).mapM Container.ofRecord = .ok cs := by
      refine exists_mapM_eq_ok_iff.2 fun r hr => exists_container_iff.2 ?_
      obtain ⟨hmem, hbridge⟩ := List.mem_filter.1 hr
      exact hcontainers r hmem hbridge
    obtain ⟨placed, hp⟩ :
        ∃ ps, (selectedRecords selects records).mapM (placedDevice built) = .ok ps := by
      refine exists_mapM_eq_ok_iff.2 fun r hr => ?_
      obtain ⟨hgood, hknown⟩ := hdevices r hr
      obtain ⟨d, hd⟩ := exists_device_iff.2 hgood
      exact ⟨(given r.bridgeUid, d), placedDevice_eq_ok_iff.2
        ⟨hd, rfl, fun uid hu => (huids hb uid).2 (hknown uid hu)⟩⟩
    exact ⟨(_, _), buildDevices_eq_ok_iff.2 ⟨built, placed, hb, hp, rfl, rfl⟩⟩

theorem exists_buildVariables_iff {selects : String → Bool} {vars : List VariableRecord}
    {links : List LinkRecord} {notes : List NoteRecord} :
    (∃ b, buildVariables selects vars links notes = .ok b) ↔
      (∀ r ∈ links, selects r.name = true → ¬ r.Bad) ∧
        (∀ r ∈ notes, selects r.name = true → ¬ r.Bad) ∧
        ∀ r ∈ vars, selects r.name = true → r.itemType ≠ "" := by
  have hselected : ∀ {α β : Type} {f : α → Except CatalogFault β} {name : α → String} {xs : List α},
      (∃ ys, (xs.filter fun x => selects (name x)).mapM f = .ok ys) ↔
        ∀ x ∈ xs, selects (name x) = true → ∃ y, f x = .ok y := by
    intro α β f name xs
    simp only [exists_mapM_eq_ok_iff, List.mem_filter, and_imp]
  simp only [← exists_link_iff, ← exists_note_iff, ← exists_variable_iff, ← hselected]
  constructor
  · rintro ⟨built, h⟩
    obtain ⟨ls, ns, vs, hl, hn, hv, -⟩ := buildVariables_eq_ok_iff.1 h
    exact ⟨⟨ls, hl⟩, ⟨ns, hn⟩, ⟨vs, hv⟩⟩
  · rintro ⟨⟨ls, hl⟩, ⟨ns, hn⟩, ⟨vs, hv⟩⟩
    exact ⟨_, buildVariables_eq_ok_iff.2 ⟨ls, ns, vs, hl, hn, hv, rfl⟩⟩

theorem exists_ofRecords_iff {selects : String → Bool} {records : RecordSet} :
    (∃ c, Catalog.ofRecords selects records = .ok c) ↔
      (∃ b, buildDevices selects records.devices = .ok b) ∧
        ∃ vs, buildVariables selects records.vars records.links records.notes = .ok vs := by
  unfold Catalog.ofRecords
  rw [exists_bind_eq_ok_iff]
  constructor
  · rintro ⟨b, hb, c, hc⟩
    obtain ⟨vs, hvs, -⟩ := bind_eq_ok_iff.1 hc
    exact ⟨⟨b, hb⟩, ⟨vs, hvs⟩⟩
  · rintro ⟨⟨b, hb⟩, ⟨vs, hvs⟩⟩
    exact ⟨b, hb, _, bind_eq_ok_iff.2 ⟨vs, hvs, rfl⟩⟩

/-- A catalog is made exactly if nothing is bad about the records. -/
theorem exists_ofRecords_iff_not_badInput {selects : String → Bool} {records : RecordSet} :
    (∃ c, Catalog.ofRecords selects records = .ok c) ↔ ¬ BadInput selects records := by
  rw [exists_ofRecords_iff, exists_buildDevices_iff, exists_buildVariables_iff]
  constructor
  · rintro ⟨⟨hcontainers, hdevices⟩, hlinks, hnotes, hvars⟩ hbad
    cases hbad with
    | container r hr hb h => exact hcontainers r hr hb h
    | device r hr h => exact (hdevices r hr).1 h
    | unknownHost r hr uid hu h =>
      obtain ⟨b, hmem, hbridge, huid⟩ := (hdevices r hr).2 uid hu
      exact h b hmem hbridge huid
    | link r hr hs h => exact hlinks r hr hs h
    | note r hr hs h => exact hnotes r hr hs h
    | vars r hr hs h => exact hvars r hr hs h
  · intro hgood
    refine ⟨⟨fun r hr hb h => hgood (.container r hr hb h), fun r hr => ⟨?_, fun uid hu => ?_⟩⟩,
      fun r hr hs h => hgood (.link r hr hs h), fun r hr hs h => hgood (.note r hr hs h),
      fun r hr hs h => hgood (.vars r hr hs h)⟩
    · exact fun h => hgood (.device r hr h)
    · by_contra hunknown
      refine hgood (.unknownHost r hr uid hu fun b hmem hbridge huid => ?_)
      exact hunknown ⟨b, hmem, hbridge, huid⟩

/-! ## What is not selected -/

/-- The same containers, and the same selected records of every category, each in order. -/
structure AgreeOn (selects : String → Bool) (records records' : RecordSet) : Prop where
  containers : records.devices.filter (·.isBridge) = records'.devices.filter (·.isBridge)
  devices : selectedRecords selects records.devices = selectedRecords selects records'.devices
  vars : selectedVariables selects records.vars = selectedVariables selects records'.vars
  links : (records.links.filter fun r => selects r.name) =
    records'.links.filter fun r => selects r.name
  notes : (records.notes.filter fun r => selects r.name) =
    records'.notes.filter fun r => selects r.name

theorem buildDevices_congr {selects : String → Bool} {records records' : List DeviceRecord}
    (hb : records.filter (·.isBridge) = records'.filter (·.isBridge))
    (hs : selectedRecords selects records = selectedRecords selects records') :
    buildDevices selects records = buildDevices selects records' := by
  unfold selectedRecords at hs
  unfold buildDevices
  rw [hb, hs]

theorem buildVariables_congr {selects : String → Bool} {vars vars' : List VariableRecord}
    {links links' : List LinkRecord} {notes notes' : List NoteRecord}
    (hv : selectedVariables selects vars = selectedVariables selects vars')
    (hl : (links.filter fun r => selects r.name) = links'.filter fun r => selects r.name)
    (hn : (notes.filter fun r => selects r.name) = notes'.filter fun r => selects r.name) :
    buildVariables selects vars links notes = buildVariables selects vars' links' notes' := by
  unfold selectedVariables at hv
  unfold buildVariables
  rw [hv, hl, hn]

/-- Records are refused exactly for bad input. Records that agree on the containers and on what is
selected make the same catalog or meet the same fault, whatever else there is. -/
theorem refusal_of_ofRecords (selects : String → Bool) (records : RecordSet) :
    ((∃ f, Catalog.ofRecords selects records = .error f) ↔ BadInput selects records) ∧
      ∀ records', AgreeOn selects records records' →
        Catalog.ofRecords selects records' = Catalog.ofRecords selects records := by
  constructor
  · rw [exists_error_iff, exists_ofRecords_iff_not_badInput, not_not]
  · intro records' h
    unfold Catalog.ofRecords
    rw [buildDevices_congr h.containers h.devices, buildVariables_congr h.vars h.links h.notes]

/-- The records that are not selected may be as bad as they like: here an id of two segments, a host
that is not there, and a link without an endpoint. -/
theorem refusal_of_unselected_records :
    AgreeOn (fun name => name != "old")
        { devices := [{ name := "bridge", uid := "hue:bridge:b1", isBridge := true },
            { name := "lamp", uid := "hue:0210:b1:lamp", bridgeUid := some "hue:bridge:b1" }] }
        { devices := [{ name := "old", uid := "hue:lamp" },
            { name := "bridge", uid := "hue:bridge:b1", isBridge := true },
            { name := "old", uid := "zwave:n:c:d", bridgeUid := some "zwave:stick:c" },
            { name := "lamp", uid := "hue:0210:b1:lamp", bridgeUid := some "hue:bridge:b1" }]
          links := [{ name := "old", channelUid := "" }] } ∧
      ∃ c, Catalog.ofRecords (fun name => name != "old")
          { devices := [{ name := "bridge", uid := "hue:bridge:b1", isBridge := true },
              { name := "lamp", uid := "hue:0210:b1:lamp", bridgeUid := some "hue:bridge:b1" }] } =
          .ok c ∧
        Catalog.ofRecords (fun name => name != "old")
          { devices := [{ name := "old", uid := "hue:lamp" },
              { name := "bridge", uid := "hue:bridge:b1", isBridge := true },
              { name := "old", uid := "zwave:n:c:d", bridgeUid := some "zwave:stick:c" },
              { name := "lamp", uid := "hue:0210:b1:lamp", bridgeUid := some "hue:bridge:b1" }]
            links := [{ name := "old", channelUid := "" }] } = .ok c := by
  refine ⟨⟨rfl, rfl, rfl, rfl, rfl⟩, _, rfl, ?_⟩
  exact ((refusal_of_ofRecords _ _).2 _ ⟨rfl, rfl, rfl, rfl, rfl⟩).trans rfl

end HomeCatalog
