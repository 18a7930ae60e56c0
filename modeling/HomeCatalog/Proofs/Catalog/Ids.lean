import HomeCatalog.Catalog.Parts
import HomeCatalog.Proofs.Text.Split
import HomeCatalog.Proofs.Traversal

/-!
# Ids survive building

An entity keeps its id in segments and puts it together again when it is asked for it. Nothing is
lost on the way: a built container and a built device have the id of their record
(`Container.uid_of_ofRecord`, `Device.uid_of_ofRecord`), and splitting that id gives back the
segments, none of them empty.
-/

namespace HomeCatalog

/-! ## Segments of an id -/

theorem threeSegments_eq_ok_iff {owner : Owner} {field uid a b c : String} :
    threeSegments owner field uid = .ok (a, b, c) ↔
      Text.split ':' uid = [a, b, c] ∧ a ≠ "" ∧ b ≠ "" ∧ c ≠ "" := by
  unfold threeSegments
  split
  · next x y z h =>
    rw [h, ite_error_eq_ok_iff]
    simp only [Bool.or_eq_false_iff, String.isEmpty_eq_false_iff, and_assoc]
    constructor
    · rintro ⟨hx, hy, hz, ⟨⟩⟩
      exact ⟨rfl, hx, hy, hz⟩
    · rintro ⟨⟨⟩, hx, hy, hz⟩
      exact ⟨hx, hy, hz, rfl⟩
  · next h =>
    simp only [reduceCtorEq, false_iff]
    rintro ⟨hs, -⟩
    exact h _ _ _ hs

theorem fourSegments_eq_ok_iff {owner : Owner} {field uid a b c d : String} :
    fourSegments owner field uid = .ok (a, b, c, d) ↔
      Text.split ':' uid = [a, b, c, d] ∧ a ≠ "" ∧ b ≠ "" ∧ c ≠ "" ∧ d ≠ "" := by
  unfold fourSegments
  split
  · next x y z w h =>
    rw [h, ite_error_eq_ok_iff]
    simp only [Bool.or_eq_false_iff, String.isEmpty_eq_false_iff, and_assoc]
    constructor
    · rintro ⟨hx, hy, hz, hw, ⟨⟩⟩
      exact ⟨rfl, hx, hy, hz, hw⟩
    · rintro ⟨⟨⟩, hx, hy, hz, hw⟩
      exact ⟨hx, hy, hz, hw, rfl⟩
  · next h =>
    simp only [reduceCtorEq, false_iff]
    rintro ⟨hs, -⟩
    exact h _ _ _ _ hs

/-! ## Containers -/

/-- The segments that a container's id is put together from. -/
def Container.segments (c : Container) : List String :=
  [c.namespaceId, c.typeId, c.containerId]

theorem Container.uid_eq_join (c : Container) : c.uid = Text.join ':' c.segments := by
  apply String.toList_inj.1
  simp [Container.uid, Container.segments, Text.join, Text.joined]

theorem Container.ofRecord_eq_ok_iff {r : DeviceRecord} {c : Container} :
    Container.ofRecord r = .ok c ↔
      ∃ properties, valuesOfProperties (.container r.name) false r.properties = .ok properties ∧
        Text.split ':' r.uid = c.segments ∧ (∀ s ∈ c.segments, s ≠ "") ∧
        c = { c with
          displayName := given r.label, location := given r.location
          properties, children := [] } := by
  unfold Container.ofRecord
  constructor
  · intro h
    obtain ⟨⟨a, b, d⟩, hs, h⟩ := bind_eq_ok_iff.1 h
    obtain ⟨properties, hp, h⟩ := bind_eq_ok_iff.1 h
    cases h
    obtain ⟨hs, ha, hb, hd⟩ := threeSegments_eq_ok_iff.1 hs
    exact ⟨properties, hp, hs, by simp [Container.segments, ha, hb, hd], rfl⟩
  · rintro ⟨properties, hp, hs, hne, hc⟩
    simp only [Container.segments, List.mem_cons, List.not_mem_nil, or_false, forall_eq_or_imp,
      forall_eq] at hne
    refine bind_eq_ok_iff.2 ⟨(c.namespaceId, c.typeId, c.containerId),
      threeSegments_eq_ok_iff.2 ⟨hs, hne⟩, bind_eq_ok_iff.2 ⟨properties, hp, ?_⟩⟩
    rw [hc]
    rfl

theorem Container.uid_of_ofRecord {r : DeviceRecord} {c : Container}
    (h : Container.ofRecord r = .ok c) : c.uid = r.uid := by
  obtain ⟨-, -, hs, -⟩ := Container.ofRecord_eq_ok_iff.1 h
  rw [c.uid_eq_join, ← hs, Text.join_split]

/-! ## Devices -/

/-- The segments that a device's id is put together from: three, or four with the container's. -/
def Device.segments (d : Device) : List String :=
  [d.namespaceId, d.typeId] ++ d.containerId.toList ++ [d.deviceId]

theorem Device.uid_eq_join (d : Device) : d.uid = Text.join ':' d.segments := by
  apply String.toList_inj.1
  cases h : d.containerId <;> simp [Device.uid, Device.segments, Text.join, Text.joined, h]

/-- The segments of a device: those of its record's id, three for a device that stands on its own,
and four for one that names a container by an id of three segments. -/
theorem deviceIds_eq_ok_iff {r : DeviceRecord} {a b d : String} {c : Option String} :
    deviceIds r = .ok (a, b, c, d) ↔
      Text.split ':' r.uid = [a, b] ++ c.toList ++ [d] ∧
        (∀ s ∈ [a, b] ++ c.toList ++ [d], s ≠ "") ∧ c.isSome = (given r.bridgeUid).isSome ∧
        ∀ u, given r.bridgeUid = some u →
          ∃ x y z, Text.split ':' u = [x, y, z] ∧ x ≠ "" ∧ y ≠ "" ∧ z ≠ "" := by
  unfold deviceIds
  split
  · next u hu =>
    constructor
    · intro h
      obtain ⟨⟨x, y, z⟩, hb, h⟩ := bind_eq_ok_iff.1 h
      obtain ⟨⟨a', b', c', d'⟩, hs, h⟩ := bind_eq_ok_iff.1 h
      cases h
      obtain ⟨hs, hne⟩ := fourSegments_eq_ok_iff.1 hs
      refine ⟨hs, by simpa using hne, by simp [hu], ?_⟩
      intro v hv
      rw [hu] at hv
      cases hv
      exact ⟨x, y, z, threeSegments_eq_ok_iff.1 hb⟩
    · rintro ⟨hs, hne, hc, hb⟩
      obtain ⟨x, y, z, hb⟩ := hb u hu
      cases c with
      | none => simp [hu] at hc
      | some c =>
        exact bind_eq_ok_iff.2 ⟨(x, y, z), threeSegments_eq_ok_iff.2 hb, bind_eq_ok_iff.2
          ⟨(a, b, c, d), fourSegments_eq_ok_iff.2 ⟨hs, by simpa using hne⟩, rfl⟩⟩
  · next hu =>
    constructor
    · intro h
      obtain ⟨⟨a', b', d'⟩, hs, h⟩ := bind_eq_ok_iff.1 h
      cases h
      obtain ⟨hs, hne⟩ := threeSegments_eq_ok_iff.1 hs
      exact ⟨hs, by simpa using hne, by simp [hu], by simp [hu]⟩
    · rintro ⟨hs, hne, hc, -⟩
      cases c with
      | some c => simp [hu] at hc
      | none =>
        exact bind_eq_ok_iff.2
          ⟨(a, b, d), threeSegments_eq_ok_iff.2 ⟨hs, by simpa using hne⟩, rfl⟩

theorem Device.ofRecord_eq_ok {r : DeviceRecord} {d : Device} (h : Device.ofRecord r = .ok d) :
    deviceIds r = .ok (d.namespaceId, d.typeId, d.containerId, d.deviceId) ∧
      valuesOfProperties (.device r.name) false r.properties = .ok d.properties ∧
      r.endpoints.mapM (Endpoint.ofRecord r.name) = .ok d.endpoints := by
  obtain ⟨⟨a, b, c, e⟩, hi, h⟩ := bind_eq_ok_iff.1 h
  obtain ⟨properties, hp, h⟩ := bind_eq_ok_iff.1 h
  obtain ⟨endpoints, he, h⟩ := bind_eq_ok_iff.1 h
  cases h
  exact ⟨hi, hp, he⟩

theorem Device.split_uid_of_ofRecord {r : DeviceRecord} {d : Device}
    (h : Device.ofRecord r = .ok d) : Text.split ':' r.uid = d.segments :=
  (deviceIds_eq_ok_iff.1 (Device.ofRecord_eq_ok h).1).1

theorem Device.uid_of_ofRecord {r : DeviceRecord} {d : Device} (h : Device.ofRecord r = .ok d) :
    d.uid = r.uid := by
  rw [d.uid_eq_join, ← Device.split_uid_of_ofRecord h, Text.join_split]

end HomeCatalog
