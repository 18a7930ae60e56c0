import HomeCatalog.Proofs.Catalog.Placement

/-!
# Devices inside the block of their container

Inside the block of its container a device is written with its type and its own id only. The
platform puts the rest of its id together from the container (`nestedUid`). Nothing checks that a
device's id and the id of the container it names agree, so this gives the device's id back exactly
if its record says the same namespace and the same container twice (`nested_children`). A record
that does not is nested all the same, and its id changes (`foreign_child_is_nested`).
-/

namespace HomeCatalog

/-- The id of a device that is written in the block of a container: the container's namespace and
id, and the type and id of the device's short header. -/
def nestedUid (c : Container) (d : Device) : String :=
  c.namespaceId ++ ":" ++ d.typeId ++ ":" ++ c.containerId ++ ":" ++ d.deviceId

/-- The record's id and the id of the container it names agree on the namespace and on the
container, which are the first and the third segment of either. -/
def DeviceRecord.AgreesWithContainer (r : DeviceRecord) : Prop :=
  ∃ uid, given r.bridgeUid = some uid ∧
    (Text.split ':' r.uid)[0]? = (Text.split ':' uid)[0]? ∧
    (Text.split ':' r.uid)[2]? = (Text.split ':' uid)[2]?

theorem nestedUid_eq_join (c : Container) (d : Device) :
    nestedUid c d = Text.join ':' [c.namespaceId, d.typeId, c.containerId, d.deviceId] := by
  apply String.toList_inj.1
  simp [nestedUid, Text.join, Text.joined]

/-- A device that names a container has an id of four segments. -/
theorem exists_containerId_of_given {r : DeviceRecord} {d : Device}
    (hd : Device.ofRecord r = .ok d) {uid : String} (hu : given r.bridgeUid = some uid) :
    ∃ k, d.containerId = some k ∧
      Text.split ':' r.uid = [d.namespaceId, d.typeId, k, d.deviceId] := by
  obtain ⟨hs, -, hc, -⟩ := deviceIds_eq_ok_iff.1 (Device.ofRecord_eq_ok hd).1
  rw [hu, Option.isSome_some, Option.isSome_iff_exists] at hc
  obtain ⟨k, hk⟩ := hc
  exact ⟨k, hk, by rw [hs, hk]; rfl⟩

section Built

variable {selects : String → Bool} {records : List DeviceRecord} {containers : List Container}
  {devices : List Device} (h : buildDevices selects records = .ok (containers, devices))
  {c : Container} (hc : c ∈ containers)

include h hc in
theorem split_uid_of_mem : Text.split ':' c.uid = c.segments := by
  obtain ⟨bridges, -, hb⟩ := describesContainer_containers h
  obtain ⟨r, -, hr, hu⟩ := exists_left_of_mem hb hc
  obtain ⟨-, -, hs, -⟩ := Container.ofRecord_eq_ok_iff.1 hr
  rw [hu]
  exact hs

include h hc in
theorem agreesWithContainer_iff {r : DeviceRecord} {d : Device} (hd : Device.ofRecord r = .ok d)
    (hu : given r.bridgeUid = some c.uid) :
    r.AgreesWithContainer ↔ d.namespaceId = c.namespaceId ∧ d.containerId = some c.containerId := by
  obtain ⟨k, hk, hs⟩ := exists_containerId_of_given hd hu
  have hsc := split_uid_of_mem h hc
  constructor
  · rintro ⟨uid, huid, h0, h2⟩
    cases hu.symm.trans huid
    rw [hs, hsc] at h0 h2
    exact ⟨by simpa [Container.segments] using h0, by simpa [Container.segments, hk] using h2⟩
  · rintro ⟨hn, hi⟩
    cases hk.symm.trans hi
    exact ⟨c.uid, hu, by rw [hs, hsc, hn]; rfl, by rw [hs, hsc]; rfl⟩

include h hc in
theorem nestedUid_eq_iff {r : DeviceRecord} {d : Device} (hd : Device.ofRecord r = .ok d)
    (hu : given r.bridgeUid = some c.uid) :
    nestedUid c d = r.uid ↔
      d.namespaceId = c.namespaceId ∧ d.containerId = some c.containerId := by
  obtain ⟨k, hk, hs⟩ := exists_containerId_of_given hd hu
  -- No segment holds a colon, so the rebuilt id is cut where it was put together.
  have hcut : Text.split ':' (nestedUid c d) =
      [c.namespaceId, d.typeId, c.containerId, d.deviceId] := by
    have hcolon : ∀ s ∈ c.segments ++ Text.split ':' r.uid, ':' ∉ s.toList := by
      intro s hmem
      rcases List.mem_append.1 hmem with hmem | hmem
      · exact Text.not_mem_of_mem_split (by rw [split_uid_of_mem h hc]; exact hmem)
      · exact Text.not_mem_of_mem_split hmem
    rw [nestedUid_eq_join]
    refine Text.split_join (by simp) fun s hmem => hcolon s ?_
    rw [hs, Container.segments]
    simp only [List.mem_cons, List.mem_append, List.not_mem_nil, or_false] at hmem ⊢
    tauto
  constructor
  · intro he
    rw [he, hs] at hcut
    simp only [List.cons.injEq, and_true, true_and] at hcut
    exact ⟨hcut.1, by rw [hk, hcut.2]⟩
  · rintro ⟨hn, hi⟩
    cases hk.symm.trans hi
    have he : Text.split ':' (nestedUid c d) = Text.split ':' r.uid := by rw [hcut, hs, hn]
    exact Text.eq_of_split_eq he

end Built

/-- A child is made by a selected record that names its container, and has that record's id. The
id that its block spells is this id exactly if the record agrees with its container. -/
theorem nested_children {selects : String → Bool} {records : List DeviceRecord}
    {containers : List Container} {devices : List Device}
    (h : buildDevices selects records = .ok (containers, devices)) :
    ∀ c ∈ containers, ∀ d ∈ c.children, ∃ r ∈ selectedRecords selects records,
      r.Describes d ∧ given r.bridgeUid = some c.uid ∧
      (d.namespaceId = c.namespaceId ∧ d.containerId = some c.containerId ↔
        r.AgreesWithContainer) ∧
      (nestedUid c d = r.uid ↔ r.AgreesWithContainer) := by
  intro c hc d hd
  obtain ⟨r, hr, hdesc⟩ := exists_record_of_mem_children h hc hd
  obtain ⟨hsel, hu⟩ := List.mem_filter.1 hr
  have hu : given r.bridgeUid = some c.uid := beq_iff_eq.1 hu
  have hagree := agreesWithContainer_iff h hc hdesc.1 hu
  exact ⟨r, hsel, hdesc, hu, hagree.symm, (nestedUid_eq_iff h hc hdesc.1 hu).trans hagree.symm⟩

/-- A child whose id names the namespace and the container of its container once more, and one
whose id does not. -/
theorem nested_children_of_two_lamps :
    ∃ containers devices, buildDevices (fun _ => true)
        [{ name := "bridge", uid := "hue:bridge:b1", isBridge := true },
          { name := "lamp", uid := "hue:0210:b1:lamp", bridgeUid := some "hue:bridge:b1" },
          { name := "bulb", uid := "zwave:bulb:stick:lamp", bridgeUid := some "hue:bridge:b1" }] =
        .ok (containers, devices) ∧
      ∀ c ∈ containers, ∀ d ∈ c.children, ∃ r ∈ selectedRecords (fun _ => true)
          [{ name := "bridge", uid := "hue:bridge:b1", isBridge := true },
            { name := "lamp", uid := "hue:0210:b1:lamp", bridgeUid := some "hue:bridge:b1" },
            { name := "bulb", uid := "zwave:bulb:stick:lamp", bridgeUid := some "hue:bridge:b1" }],
        r.Describes d ∧ given r.bridgeUid = some c.uid ∧
        (d.namespaceId = c.namespaceId ∧ d.containerId = some c.containerId ↔
          r.AgreesWithContainer) ∧
        (nestedUid c d = r.uid ↔ r.AgreesWithContainer) :=
  ⟨_, _, rfl, nested_children rfl⟩

/-- A device of another namespace and another container is nested under the id it names, and there
reads as `hue:bulb:b1:lamp`. -/
theorem foreign_child_is_nested :
    ∃ containers devices, buildDevices (fun _ => true)
        [{ name := "bridge", uid := "hue:bridge:b1", isBridge := true },
          { name := "bulb", uid := "zwave:bulb:stick:lamp", bridgeUid := some "hue:bridge:b1" }] =
        .ok (containers, devices) ∧
      ∃ c ∈ containers, ∃ d ∈ c.children,
        d.namespaceId ≠ c.namespaceId ∧ d.containerId ≠ some c.containerId ∧
        nestedUid c d ≠ "zwave:bulb:stick:lamp" :=
  ⟨_, _, rfl, _, .head _, _, .head _, by decide, by decide, by decide⟩

end HomeCatalog
