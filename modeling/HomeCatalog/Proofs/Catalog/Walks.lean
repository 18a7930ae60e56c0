import HomeCatalog.Pattern.NameFilter
import HomeCatalog.Proofs.Catalog.Placement

/-!
# Two walks over the records

Containers and devices can also be built in two walks over all records, one after the other. The
first makes the containers and goes past the devices, and the second goes past the containers and
puts each device where it belongs, into a container that stands or beside the others
(`walkDevices`). Both change what they have record by record, and the first fault ends them.

The walks come to what `buildDevices` makes (`walkDevices_eq`). So it does not matter where the
containers stand among the devices, before or after what they host: as long as the containers keep
their order and the devices theirs, what is built is the same, and so is the fault
(`devices_interleaved`).
-/

namespace HomeCatalog

/-! ## The walks -/

/-- What the walks have come to. -/
structure Walk where
  containers : List Container := []
  /-- The ids of the containers that are kept. -/
  kept : List String := []
  devices : List Device := []

/-- The containers with one more child, in the first one of this id. -/
def hostIn (uid : String) (d : Device) : List Container → List Container
  | [] => []
  | c :: cs =>
    if c.uid = uid then { c with children := c.children ++ [d] } :: cs else c :: hostIn uid d cs

namespace Walk

/-- A step of the first walk. -/
def addContainer (selects : String → Bool) (w : Walk) (r : DeviceRecord) :
    Except CatalogFault Walk :=
  if !r.isBridge then .ok w
  else do
    let c ← Container.ofRecord r
    return { w with
      containers := w.containers ++ [c]
      kept := if selects r.name then w.kept ++ [c.uid] else w.kept }

/-- A step of the second walk. -/
def addDevice (selects : String → Bool) (w : Walk) (r : DeviceRecord) :
    Except CatalogFault Walk :=
  if r.isBridge || !selects r.name then .ok w
  else do
    let d ← Device.ofRecord r
    match given r.bridgeUid with
    | none => return { w with devices := w.devices ++ [d] }
    | some uid =>
      if w.containers.any (·.uid == uid) then
        return { w with containers := hostIn uid d w.containers, kept := w.kept ++ [uid] }
      else throw (.unknownContainer r.name uid)

end Walk

/-- The containers and the devices on their own, built in two walks; the filter is read first. -/
def walkDevices (named : Pattern.CharacterNames) (filter : Option Letters)
    (records : List DeviceRecord) : Except CatalogFault (List Container × List Device) := do
  let filter ← NameFilter.ofText? named filter
  let w ← records.foldlM (Walk.addContainer (NameFilter.selects filter)) {}
  let w ← records.foldlM (Walk.addDevice (NameFilter.selects filter)) w
  return (w.containers.filter fun c => w.kept.contains c.uid, w.devices)

/-! ## The first walk -/

section Walks

variable (selects : String → Bool)

/-- The first walk after some records of containers, and the containers that these have made. -/
def Walk.ofContainers (bridges : List DeviceRecord) (built : List Container) : Walk where
  containers := built
  kept := (bridges.filter fun r => selects r.name).map (·.uid)

theorem Walk.addContainer_ofContainers (bridges : List DeviceRecord) (built : List Container)
    (r : DeviceRecord) (hr : r.isBridge = true) :
    addContainer selects (ofContainers selects bridges built) r =
      (Container.ofRecord r).map fun c => ofContainers selects (bridges ++ [r]) (built ++ [c]) := by
  rw [addContainer, hr]
  cases hc : Container.ofRecord r with
  | error e => rfl
  | ok c =>
    have huid := Container.uid_of_ofRecord hc
    refine congrArg Except.ok ?_
    by_cases hs : selects r.name = true <;> simp [ofContainers, List.filter_append, hs, huid]

theorem foldlM_addContainer (records : List DeviceRecord) :
    records.foldlM (Walk.addContainer selects) {} =
      ((records.filter (·.isBridge)).mapM Container.ofRecord).map fun built =>
        Walk.ofContainers selects (records.filter (·.isBridge)) built :=
  foldlM_eq_map_mapM (Walk.ofContainers selects)
    (fun w r hr => by rw [Walk.addContainer, hr]; rfl)
    (fun bridges built r => Walk.addContainer_ofContainers selects bridges built r) [] [] records

/-! ## The second walk -/

/-- One more device changes the children of its container only. -/
theorem hostedBy_append (placed : List (Option String × Device)) (host : Option String)
    (d : Device) (uid : String) :
    hostedBy (placed ++ [(host, d)]) uid =
      if host = some uid then hostedBy placed uid ++ [d] else hostedBy placed uid := by
  rw [hostedBy, List.filterMap_append]
  by_cases h : host = some uid <;> simp [h, hostedBy]

/-- Only the children of containers that were not there before are handed out. -/
theorem withChildren_congr_hostedBy {placed placed' : List (Option String × Device)}
    {seen : List String} (h : ∀ uid, uid ∉ seen → hostedBy placed uid = hostedBy placed' uid)
    (cs : List Container) : withChildren placed seen cs = withChildren placed' seen cs := by
  induction cs generalizing seen with
  | nil => rfl
  | cons c cs ih =>
    rw [withChildren, withChildren, ih fun uid huid => h uid fun hmem =>
      huid (List.mem_cons_of_mem _ hmem)]
    by_cases hc : c.uid ∈ seen
    · rw [if_pos (by simpa using hc), if_pos (by simpa using hc)]
    · rw [h c.uid hc]

theorem withChildren_append_none (placed : List (Option String × Device)) (d : Device)
    (cs : List Container) :
    withChildren (placed ++ [(none, d)]) [] cs = withChildren placed [] cs :=
  withChildren_congr_hostedBy (fun uid _ => by simp [hostedBy_append]) cs

/-- The first container of the id takes the device. -/
theorem hostIn_withChildren (placed : List (Option String × Device)) {uid : String} (d : Device)
    {seen : List String} (hseen : uid ∉ seen) (cs : List Container) :
    hostIn uid d (withChildren placed seen cs) =
      withChildren (placed ++ [(some uid, d)]) seen cs := by
  induction cs generalizing seen with
  | nil => rfl
  | cons c cs ih =>
    rw [withChildren, withChildren, hostIn, Container.uid_withChildren, hostedBy_append]
    by_cases hc : c.uid = uid
    · -- The first container of the id takes the device, and the others have seen it by then.
      have hfirst : seen.contains c.uid = false := by simpa [hc] using hseen
      have hrest : withChildren placed (c.uid :: seen) cs =
          withChildren (placed ++ [(some uid, d)]) (c.uid :: seen) cs := by
        refine withChildren_congr_hostedBy (fun uid' huid' => ?_) cs
        rw [hostedBy_append, if_neg]
        rintro ⟨⟩
        exact huid' (hc ▸ List.mem_cons_self)
      rw [if_pos hc, if_pos (congrArg some hc.symm), hfirst, hrest]
      rfl
    · rw [if_neg hc, if_neg fun h => hc (Option.some.inj h).symm, ih (by simp [hseen, Ne.symm hc])]

theorem any_uid_withChildren (placed : List (Option String × Device)) (seen : List String)
    (cs : List Container) (uid : String) :
    (withChildren placed seen cs).any (·.uid == uid) = cs.any (·.uid == uid) := by
  have huids : (withChildren placed seen cs).map (·.uid) = cs.map (·.uid) :=
    map_uid_withChildren seen cs
  have hany := congrArg (fun uids => uids.any (· == uid)) huids
  rw [List.any_map, List.any_map] at hany
  exact hany

/-- The second walk after some devices have been placed. -/
def Walk.ofPlaced (bridges : List DeviceRecord) (built : List Container)
    (placed : List (Option String × Device)) : Walk where
  containers := withChildren placed [] built
  kept := keptUids selects bridges placed
  devices := placed.filterMap fun p => if p.1.isNone then some p.2 else none

theorem withChildren_nil {seen : List String} {cs : List Container}
    (h : ∀ c ∈ cs, c.children = []) : withChildren [] seen cs = cs := by
  induction cs generalizing seen with
  | nil => rfl
  | cons c cs ih =>
    obtain ⟨hc, hcs⟩ := List.forall_mem_cons.1 h
    rw [withChildren, ih hcs]
    cases c
    cases hc
    simp [hostedBy]

theorem Walk.addDevice_ofPlaced (bridges : List DeviceRecord) (built : List Container)
    (placed : List (Option String × Device)) (r : DeviceRecord)
    (hr : (!r.isBridge && selects r.name) = true) :
    addDevice selects (ofPlaced selects bridges built placed) r =
      (placedDevice built r).map fun p => ofPlaced selects bridges built (placed ++ [p]) := by
  obtain ⟨hbridge, hs⟩ : r.isBridge = false ∧ selects r.name = true := by simpa using hr
  rw [addDevice, placedDevice, hbridge, hs]
  cases Device.ofRecord r with
  | error e => rfl
  | ok d =>
    cases hu : given r.bridgeUid with
    | none =>
      refine congrArg Except.ok ?_
      simp [ofPlaced, withChildren_append_none, keptUids, List.filterMap_append]
    | some uid =>
      have hany : (ofPlaced selects bridges built placed).containers.any (·.uid == uid) =
          built.any (·.uid == uid) := any_uid_withChildren placed [] built uid
      simp only [Bool.not_true, Bool.or_self, Bool.false_eq_true, if_false, bind, Except.bind]
      rw [hany]
      by_cases hknown : built.any (·.uid == uid) = true
      · rw [if_pos hknown, if_pos hknown]
        refine congrArg Except.ok ?_
        simp [ofPlaced, hostIn_withChildren, keptUids, List.filterMap_append]
      · rw [if_neg hknown, if_neg hknown]
        rfl

theorem foldlM_addDevice (records bridges : List DeviceRecord) {built : List Container}
    (hbuilt : ∀ c ∈ built, c.children = []) :
    records.foldlM (Walk.addDevice selects) (Walk.ofContainers selects bridges built) =
      ((records.filter fun r => !r.isBridge && selects r.name).mapM (placedDevice built)).map
        fun placed => Walk.ofPlaced selects bridges built placed := by
  -- The second walk begins with nothing placed.
  have hstart : Walk.ofContainers selects bridges built =
      Walk.ofPlaced selects bridges built [] := by
    simp [Walk.ofContainers, Walk.ofPlaced, withChildren_nil hbuilt, keptUids]
  rw [hstart]
  refine foldlM_eq_map_mapM (fun _ => Walk.ofPlaced selects bridges built)
    (fun w r hr => ?_)
    (fun _ placed r => Walk.addDevice_ofPlaced selects bridges built placed r) [] [] records
  rw [Walk.addDevice, if_pos (by simpa [imp_iff_or_not, or_comm] using hr)]

end Walks

/-! ## What is built -/

theorem children_of_mapM_ofRecord {bridges : List DeviceRecord} {built : List Container}
    (h : bridges.mapM Container.ofRecord = .ok built) : ∀ c ∈ built, c.children = [] := by
  intro c hc
  obtain ⟨r, -, hr⟩ := exists_left_of_mem (mapM_eq_ok_iff.1 h) hc
  obtain ⟨properties, -, -, -, he⟩ := Container.ofRecord_eq_ok_iff.1 hr
  rw [he]

/-- The two walks come to what `buildDevices` makes, or end with its fault. -/
theorem walkDevices_eq (named : Pattern.CharacterNames) (filter : Option Letters)
    (records : List DeviceRecord) : walkDevices named filter records =
      NameFilter.ofText? named filter >>= fun f => buildDevices (NameFilter.selects f) records := by
  rw [walkDevices]
  refine congrArg _ (funext fun f => ?_)
  rw [foldlM_addContainer, buildDevices]
  cases hbuilt : (records.filter (·.isBridge)).mapM Container.ofRecord with
  | error e => rfl
  | ok built =>
    have hplaced := foldlM_addDevice (NameFilter.selects f) records (records.filter (·.isBridge))
      (children_of_mapM_ofRecord hbuilt)
    simp only [Except.map, bind, Except.bind] at hplaced ⊢
    rw [hplaced]
    cases (records.filter fun r => !r.isBridge && NameFilter.selects f r.name).mapM
        (placedDevice built) with
    | error e => rfl
    | ok placed => rfl

/-- The containers are the same in both lists, in their order, and so is all else. How the two kinds
stand among each other is left open. -/
structure Interleaved (records records' : List DeviceRecord) : Prop where
  containers : records.filter (·.isBridge) = records'.filter (·.isBridge)
  others : (records.filter fun r => !r.isBridge) = records'.filter fun r => !r.isBridge

theorem Interleaved.selectedRecords_eq {records records' : List DeviceRecord}
    (h : Interleaved records records') (selects : String → Bool) :
    (records.filter fun r => !r.isBridge && selects r.name) =
      records'.filter fun r => !r.isBridge && selects r.name := by
  have hothers := congrArg (List.filter fun r => selects r.name) h.others
  simpa only [List.filter_filter, Bool.and_comm] using hothers

/-- Where the containers stand among the devices makes no difference: the same containers with the
same children, the same devices on their own, or the same fault. -/
theorem devices_interleaved {records records' : List DeviceRecord}
    (h : Interleaved records records') :
    (∀ selects, buildDevices selects records = buildDevices selects records') ∧
      ∀ named filter, walkDevices named filter records = walkDevices named filter records' := by
  have hbuild : ∀ selects, buildDevices selects records = buildDevices selects records' := by
    intro selects
    rw [buildDevices, buildDevices, h.containers, h.selectedRecords_eq selects]
  refine ⟨hbuild, fun named filter => ?_⟩
  rw [walkDevices_eq, walkDevices_eq]
  exact congrArg _ (funext fun f => hbuild _)

/-- A child before its container, and a second container of the same id. -/
def childFirst : List DeviceRecord := [
  { name := "lamp", uid := "hue:0210:b1:lamp", bridgeUid := some "hue:bridge:b1" },
  { name := "bridge", uid := "hue:bridge:b1", isBridge := true },
  { name := "plug", uid := "acme:switch:plug" },
  { name := "spare", uid := "hue:bridge:b1", isBridge := true }]

/-- The same records, those of containers first. -/
def containersFirst : List DeviceRecord := [
  { name := "bridge", uid := "hue:bridge:b1", isBridge := true },
  { name := "spare", uid := "hue:bridge:b1", isBridge := true },
  { name := "lamp", uid := "hue:0210:b1:lamp", bridgeUid := some "hue:bridge:b1" },
  { name := "plug", uid := "acme:switch:plug" }]

/-- A device whose container is not there, and two records with ids of two segments, the last of
them that of a container. -/
def strayFirst : List DeviceRecord := [
  { name := "stray", uid := "zwave:node:stick:n1", bridgeUid := some "zwave:stick:s1" },
  { name := "plug", uid := "acme:plug" },
  { name := "bridge", uid := "hue:bridge", isBridge := true }]

/-- The same records, that of the container first. -/
def strayLast : List DeviceRecord := [
  { name := "bridge", uid := "hue:bridge", isBridge := true },
  { name := "stray", uid := "zwave:node:stick:n1", bridgeUid := some "zwave:stick:s1" },
  { name := "plug", uid := "acme:plug" }]

theorem devices_interleaved_of_childFirst :
    (Interleaved childFirst containersFirst ∧
      ∃ containers devices,
        buildDevices (fun _ => true) containersFirst = .ok (containers, devices) ∧
        buildDevices (fun _ => true) childFirst = .ok (containers, devices) ∧
        containers.map (fun c => c.children.length) = [1, 0] ∧ devices.length = 1) ∧
      Interleaved strayFirst strayLast ∧
        walkDevices (fun _ => none) (some "b|s") strayFirst =
          .error (.segments (.container "bridge") "UID" "hue:bridge" 3 2) := by
  have hchild : Interleaved childFirst containersFirst := ⟨rfl, rfl⟩
  have hstray : Interleaved strayFirst strayLast := ⟨rfl, rfl⟩
  exact ⟨⟨hchild, _, _, rfl, ((devices_interleaved hchild).1 _).trans rfl, rfl, rfl⟩, hstray,
    ((devices_interleaved hstray).2 _ _).trans rfl⟩

end HomeCatalog
