import HomeCatalog.Catalog.OfRecords
import HomeCatalog.Proofs.Catalog.Ids
import HomeCatalog.Proofs.Grouping

/-!
# Where devices are placed

Building devices loses, doubles and misplaces none of them (`placement_of_buildDevices`). Devices
without a container stand on their own in the order of their records. All others are children of
the first container of the id they name, again in order, wherever the container's record stands;
containers that repeat an id have no children.

Keeping only some ids and handing out the children can be done in either order
(`filter_withChildren`), because whether a container is the first of its id depends on containers of
that id only. So the containers that are left out never had a child (`flatMap_children_perm`).
-/

namespace HomeCatalog

/-! ## The records that count -/

/-- The records of selected devices. -/
def selectedRecords (selects : String → Bool) (records : List DeviceRecord) : List DeviceRecord :=
  records.filter fun r => !r.isBridge && selects r.name

/-- The records of selected devices that name no container. -/
def standaloneRecords (selects : String → Bool) (records : List DeviceRecord) :
    List DeviceRecord :=
  (selectedRecords selects records).filter fun r => given r.bridgeUid == none

/-- The records of selected devices that name the container of this id. -/
def hostedRecords (selects : String → Bool) (records : List DeviceRecord) (uid : String) :
    List DeviceRecord :=
  (selectedRecords selects records).filter fun r => given r.bridgeUid == some uid

/-- The record makes the device, and both have one id. -/
def DeviceRecord.Describes (r : DeviceRecord) (d : Device) : Prop :=
  Device.ofRecord r = .ok d ∧ d.uid = r.uid

/-- The record makes the container, its children aside, and both have one id. -/
def DeviceRecord.DescribesContainer (r : DeviceRecord) (c : Container) : Prop :=
  Container.ofRecord r = .ok { c with children := [] } ∧ c.uid = r.uid

/-- Every selected device has its one place among these containers and devices. -/
structure Placement (selects : String → Bool) (records : List DeviceRecord)
    (containers : List Container) (devices : List Device) : Prop where
  /-- The devices on their own are those that name no container, in order. -/
  standalone : List.Forall₂ DeviceRecord.Describes (standaloneRecords selects records) devices
  /-- The first container of an id has the devices that name it, in order. -/
  first : ∀ before c after, containers = before ++ c :: after → c.uid ∉ before.map (·.uid) →
    List.Forall₂ DeviceRecord.Describes (hostedRecords selects records c.uid) c.children
  /-- A later container of the id has none. -/
  later : ∀ before c after, containers = before ++ c :: after → c.uid ∈ before.map (·.uid) →
    c.children = []
  /-- A container that a device names is there. -/
  hosted : ∀ r ∈ selectedRecords selects records, ∀ uid, given r.bridgeUid = some uid →
    ∃ c ∈ containers, c.uid = uid
  /-- The containers are made by records of containers, in order. -/
  described : ∃ bridges, bridges.Sublist (records.filter (·.isBridge)) ∧
    List.Forall₂ DeviceRecord.DescribesContainer bridges containers
  /-- Each selected record is in exactly one place. -/
  once : ∃ all, List.Forall₂ DeviceRecord.Describes (selectedRecords selects records) all ∧
    (devices ++ containers.flatMap (·.children)).Perm all

/-! ## Opening the definitions -/

theorem placedDevice_eq_ok_iff {containers : List Container} {r : DeviceRecord}
    {host : Option String} {d : Device} :
    placedDevice containers r = .ok (host, d) ↔
      Device.ofRecord r = .ok d ∧ host = given r.bridgeUid ∧
        ∀ uid, host = some uid → uid ∈ containers.map (·.uid) := by
  unfold placedDevice
  constructor
  · intro h
    obtain ⟨d', hd, h⟩ := bind_eq_ok_iff.1 h
    split at h
    · next hu =>
      cases h
      exact ⟨hd, hu.symm, by simp⟩
    · next uid hu =>
      split at h
      · next hc =>
        cases h
        refine ⟨hd, hu.symm, ?_⟩
        rintro _ ⟨⟩
        simpa using hc
      · cases h
  · rintro ⟨hd, rfl, hc⟩
    refine bind_eq_ok_iff.2 ⟨d, hd, ?_⟩
    split
    · next hu => rw [hu]; rfl
    · next uid hu =>
      have hany : containers.any (·.uid == uid) = true := by simpa using hc uid hu
      rw [if_pos hany, hu]
      rfl

/-! ## Handing out children -/

@[simp] theorem Container.uid_withChildren (c : Container) (ds : List Device) :
    ({ c with children := ds } : Container).uid = c.uid := rfl

section WithChildren

variable {placed : List (Option String × Device)}

theorem hostedBy_eq (placed : List (Option String × Device)) (uid : String) :
    hostedBy placed uid = (placed.filter fun p => decide (p.1 = some uid)).map (·.2) :=
  filterMap_ite_some _ _ placed

/-- Only membership of the ids at hand in `seen` matters. -/
theorem withChildren_congr {seen seen' : List String} {cs : List Container}
    (h : ∀ c ∈ cs, c.uid ∈ seen ↔ c.uid ∈ seen') :
    withChildren placed seen cs = withChildren placed seen' cs := by
  induction cs generalizing seen seen' with
  | nil => rfl
  | cons c cs ih =>
    have hc : seen.contains c.uid = seen'.contains c.uid := by
      rw [Bool.eq_iff_iff, List.contains_iff_mem, List.contains_iff_mem]
      exact h c List.mem_cons_self
    have hcs : withChildren placed (c.uid :: seen) cs = withChildren placed (c.uid :: seen') cs :=
      ih fun c' hc' => by simp [h c' (List.mem_cons_of_mem _ hc')]
    rw [withChildren, withChildren, hc, hcs]

/-- A test on ids can be made before or after the children are handed out. -/
theorem filter_withChildren (keep : String → Bool) (seen : List String) (cs : List Container) :
    (withChildren placed seen cs).filter (fun c => keep c.uid) =
      withChildren placed seen (cs.filter fun c => keep c.uid) := by
  induction cs generalizing seen with
  | nil => rfl
  | cons c cs ih =>
    rw [withChildren, List.filter_cons, List.filter_cons, Container.uid_withChildren, ih]
    by_cases hk : keep c.uid = true
    · rw [if_pos hk, if_pos hk, withChildren]
    · rw [if_neg hk, if_neg hk]
      apply withChildren_congr
      intro c' hc'
      have hne : c'.uid ≠ c.uid := by
        intro he
        exact hk (by rw [← he]; exact (List.mem_filter.1 hc').2)
      simp [hne]

/-- A container keeps everything but its children. -/
theorem describes_withChildren (placed : List (Option String × Device)) (seen : List String)
    {bridges : List DeviceRecord} {cs : List Container}
    (h : List.Forall₂ (fun r c => Container.ofRecord r = .ok c) bridges cs) :
    List.Forall₂ DeviceRecord.DescribesContainer bridges (withChildren placed seen cs) := by
  induction h generalizing seen with
  | nil => exact .nil
  | @cons r c _ _ hc _ ih =>
    obtain ⟨properties, -, -, -, he⟩ := Container.ofRecord_eq_ok_iff.1 hc
    have hchildren : ({ c with children := [] } : Container) = c := by rw [he]
    refine .cons ⟨?_, ?_⟩ (ih _)
    · rw [hc, hchildren]
    · rw [Container.uid_withChildren, Container.uid_of_ofRecord hc]

theorem map_uid_withChildren (seen : List String) (cs : List Container) :
    (withChildren placed seen cs).map (·.uid) = cs.map (·.uid) := by
  induction cs generalizing seen with
  | nil => rfl
  | cons c cs ih => rw [withChildren, List.map_cons, List.map_cons, ih, Container.uid_withChildren]

/-- The children of a container depend on the ids before it. -/
theorem children_of_withChildren_eq {seen : List String} {cs before after : List Container}
    {c : Container} (h : withChildren placed seen cs = before ++ c :: after) :
    c.children = if c.uid ∈ seen ∨ c.uid ∈ before.map (·.uid) then []
      else hostedBy placed c.uid := by
  induction cs generalizing seen before with
  | nil => simp [withChildren] at h
  | cons c' cs ih =>
    rw [withChildren] at h
    cases before with
    | nil =>
      obtain ⟨rfl, -⟩ := List.cons.inj h
      simp
    | cons b before =>
      obtain ⟨hb, hrest⟩ := List.cons.inj h
      have hu : b.uid = c'.uid := by rw [← hb, Container.uid_withChildren]
      rw [ih hrest, List.map_cons, hu]
      simp only [List.mem_cons]
      congr 1
      exact propext (by tauto)

/-- Together the children are the devices placed in the ids at hand, but for those seen before. -/
theorem flatMap_children_perm (seen : List String) (cs : List Container) :
    ((withChildren placed seen cs).flatMap (·.children)).Perm
      ((placed.filter fun p =>
        p.1.any fun uid => cs.any (·.uid == uid) && !seen.contains uid).map (·.2)) := by
  induction cs generalizing seen with
  | nil => simp [withChildren]
  | cons c cs ih =>
    rw [withChildren, List.flatMap_cons]
    refine ((ih (c.uid :: seen)).append_left _).trans ?_
    by_cases hs : seen.contains c.uid = true
    · rw [if_pos hs, List.nil_append]
      refine .of_eq (congrArg _ (List.filter_congr fun p _ => ?_))
      cases p.1 with
      | none => rfl
      | some uid =>
        by_cases hu : c.uid = uid
        · subst hu
          simpa using hs
        · simp [beq_eq_false_iff_ne.2 hu, Ne.symm hu]
    · rw [if_neg hs, hostedBy_eq, ← List.map_append]
      refine ((filter_append_filter_perm ?_ placed).map _).trans
        (.of_eq (congrArg _ (List.filter_congr fun p _ => ?_)))
      · intro p hp
        simp [of_decide_eq_true hp]
      · cases p.1 with
        | none => rfl
        | some uid =>
          by_cases hu : c.uid = uid
          · subst hu
            simpa using hs
          · simp [beq_eq_false_iff_ne.2 hu, Ne.symm hu]

end WithChildren

/-- The containers that are kept are chosen by their ids before the children are handed out. -/
theorem buildDevices_eq_ok_iff {selects : String → Bool} {records : List DeviceRecord}
    {containers : List Container} {devices : List Device} :
    buildDevices selects records = .ok (containers, devices) ↔
      ∃ built placed, (records.filter (·.isBridge)).mapM Container.ofRecord = .ok built ∧
        (selectedRecords selects records).mapM (placedDevice built) = .ok placed ∧
        containers = withChildren placed [] (built.filter fun c =>
          (keptUids selects (records.filter (·.isBridge)) placed).contains c.uid) ∧
        devices = placed.filterMap fun p => if p.1.isNone then some p.2 else none := by
  unfold buildDevices
  constructor
  · intro h
    obtain ⟨built, hb, h⟩ := bind_eq_ok_iff.1 h
    obtain ⟨placed, hp, h⟩ := bind_eq_ok_iff.1 h
    cases h
    exact ⟨built, placed, hb, hp,
      filter_withChildren (keptUids selects (records.filter (·.isBridge)) placed).contains [] built,
      rfl⟩
  · rintro ⟨built, placed, hb, hp, rfl, rfl⟩
    refine bind_eq_ok_iff.2 ⟨built, hb, bind_eq_ok_iff.2 ⟨placed, hp, ?_⟩⟩
    let kept := keptUids selects (records.filter (·.isBridge)) placed
    exact congrArg (fun cs => Except.ok (cs, _)) (filter_withChildren kept.contains [] built)

/-! ## The places of all devices -/

section Placed

variable {selects : String → Bool} {records : List DeviceRecord} {built : List Container}
  {placed : List (Option String × Device)}

theorem describes_standalone
    (h : (selectedRecords selects records).mapM (placedDevice built) = .ok placed) :
    List.Forall₂ DeviceRecord.Describes (standaloneRecords selects records)
      (placed.filterMap fun p => if p.1.isNone then some p.2 else none) := by
  refine forall₂_filterMap ?_ ?_ (mapM_eq_ok_iff.1 h)
  · intro r p hp hr
    obtain ⟨hd, hhost, -⟩ := placedDevice_eq_ok_iff.1 hp
    exact ⟨p.2, by simp [hhost, beq_iff_eq.1 hr], hd, Device.uid_of_ofRecord hd⟩
  · intro r p hp hr
    obtain ⟨-, hhost, -⟩ := placedDevice_eq_ok_iff.1 hp
    rw [hhost, if_neg (by simpa [Option.isSome_iff_ne_none] using hr)]

theorem describes_hostedBy (uid : String)
    (h : (selectedRecords selects records).mapM (placedDevice built) = .ok placed) :
    List.Forall₂ DeviceRecord.Describes (hostedRecords selects records uid)
      (hostedBy placed uid) := by
  refine forall₂_filterMap ?_ ?_ (mapM_eq_ok_iff.1 h)
  · intro r p hp hr
    obtain ⟨hd, hhost, -⟩ := placedDevice_eq_ok_iff.1 hp
    exact ⟨p.2, by simp [hhost, beq_iff_eq.1 hr], hd, Device.uid_of_ofRecord hd⟩
  · intro r p hp hr
    obtain ⟨-, hhost, -⟩ := placedDevice_eq_ok_iff.1 hp
    simpa [hhost] using hr

theorem describes_placed
    (h : (selectedRecords selects records).mapM (placedDevice built) = .ok placed) :
    List.Forall₂ DeviceRecord.Describes (selectedRecords selects records) (placed.map (·.2)) := by
  refine List.forall₂_map_right_iff.2 ((mapM_eq_ok_iff.1 h).imp fun r p hp => ?_)
  obtain ⟨hd, -, -⟩ := placedDevice_eq_ok_iff.1 hp
  exact ⟨hd, Device.uid_of_ofRecord hd⟩

/-- The id that a placed device names is kept. -/
theorem exists_kept_of_placed
    (h : (selectedRecords selects records).mapM (placedDevice built) = .ok placed)
    (bridges : List DeviceRecord) {p : Option String × Device} (hp : p ∈ placed) {uid : String}
    (hu : p.1 = some uid) :
    ∃ c ∈ built.filter (fun c => (keptUids selects bridges placed).contains c.uid),
      c.uid = uid := by
  obtain ⟨r, -, hr⟩ := exists_left_of_mem (mapM_eq_ok_iff.1 h) hp
  obtain ⟨-, -, hbuilt⟩ := placedDevice_eq_ok_iff.1 hr
  obtain ⟨c, hc, rfl⟩ := List.mem_map.1 (hbuilt uid hu)
  refine ⟨c, List.mem_filter.2 ⟨hc, ?_⟩, rfl⟩
  rw [List.contains_iff_mem, keptUids]
  exact List.mem_append_right _ (List.mem_filterMap.2 ⟨p, hp, hu⟩)

/-- No placed device is lost with a container that is left out. -/
theorem devices_append_children_perm
    (h : (selectedRecords selects records).mapM (placedDevice built) = .ok placed)
    (bridges : List DeviceRecord) :
    ((placed.filterMap fun p => if p.1.isNone then some p.2 else none) ++
      (withChildren placed [] (built.filter fun c =>
        (keptUids selects bridges placed).contains c.uid)).flatMap (·.children)).Perm
      (placed.map (·.2)) := by
  rw [filterMap_ite_some]
  simp only [Bool.decide_eq_true]
  refine ((flatMap_children_perm [] _).append_left _).trans ?_
  rw [← List.map_append]
  refine .trans (.of_eq (congrArg _ (congrArg _ (List.filter_congr fun p hp => ?_))))
    ((List.filter_append_perm (·.1.isNone) placed).map _)
  cases hu : p.1 with
  | none => rfl
  | some uid =>
    obtain ⟨c, hc, hcu⟩ := exists_kept_of_placed h bridges hp hu
    have hany : (built.filter fun c =>
        (keptUids selects bridges placed).contains c.uid).any (·.uid == uid) = true :=
      List.any_eq_true.2 ⟨c, hc, beq_iff_eq.2 hcu⟩
    rw [Option.any_some, hany]
    rfl

end Placed

/-! ## What is built -/

section Built

variable {selects : String → Bool} {records : List DeviceRecord} {containers : List Container}
  {devices : List Device} (h : buildDevices selects records = .ok (containers, devices))

include h

theorem describes_devices :
    List.Forall₂ DeviceRecord.Describes (standaloneRecords selects records) devices := by
  obtain ⟨built, placed, -, hplaced, -, rfl⟩ := buildDevices_eq_ok_iff.1 h
  exact describes_standalone hplaced

theorem describes_children_of_first {before after : List Container} {c : Container}
    (hc : containers = before ++ c :: after) (hfirst : c.uid ∉ before.map (·.uid)) :
    List.Forall₂ DeviceRecord.Describes (hostedRecords selects records c.uid) c.children := by
  obtain ⟨built, placed, -, hplaced, rfl, -⟩ := buildDevices_eq_ok_iff.1 h
  rw [children_of_withChildren_eq hc, if_neg (by simpa using hfirst)]
  exact describes_hostedBy c.uid hplaced

theorem children_eq_nil_of_later {before after : List Container} {c : Container}
    (hc : containers = before ++ c :: after) (hlater : c.uid ∈ before.map (·.uid)) :
    c.children = [] := by
  obtain ⟨built, placed, -, -, rfl, -⟩ := buildDevices_eq_ok_iff.1 h
  rw [children_of_withChildren_eq hc, if_pos (.inr hlater)]

/-- A child comes from a record that names its container. -/
theorem exists_record_of_mem_children {c : Container} (hc : c ∈ containers) {d : Device}
    (hd : d ∈ c.children) : ∃ r ∈ hostedRecords selects records c.uid, r.Describes d := by
  obtain ⟨before, after, hsplit⟩ := List.append_of_mem hc
  by_cases hu : c.uid ∈ before.map (·.uid)
  · rw [children_eq_nil_of_later h hsplit hu] at hd
    cases hd
  · exact exists_left_of_mem (describes_children_of_first h hsplit hu) hd

theorem exists_container_of_named {r : DeviceRecord} (hr : r ∈ selectedRecords selects records)
    {uid : String} (hu : given r.bridgeUid = some uid) : ∃ c ∈ containers, c.uid = uid := by
  obtain ⟨built, placed, -, hplaced, rfl, -⟩ := buildDevices_eq_ok_iff.1 h
  obtain ⟨p, hp, hrp⟩ := exists_right_of_mem (mapM_eq_ok_iff.1 hplaced) hr
  obtain ⟨-, hhost, -⟩ := placedDevice_eq_ok_iff.1 hrp
  obtain ⟨c, hc, hcu⟩ :=
    exists_kept_of_placed hplaced (records.filter (·.isBridge)) hp (hhost.trans hu)
  exact List.mem_map.1 (by rw [map_uid_withChildren]; exact List.mem_map.2 ⟨c, hc, hcu⟩)

theorem describesContainer_containers :
    ∃ bridges, bridges.Sublist (records.filter (·.isBridge)) ∧
      List.Forall₂ DeviceRecord.DescribesContainer bridges containers := by
  obtain ⟨built, placed, hbuilt, -, rfl, -⟩ := buildDevices_eq_ok_iff.1 h
  let kept := (keptUids selects (records.filter (·.isBridge)) placed).contains
  have hkept : List.Forall₂ (fun r c => Container.ofRecord r = .ok c)
      ((records.filter (·.isBridge)).filter fun r => kept r.uid)
      (built.filter fun c => kept c.uid) := by
    refine mapM_eq_ok_iff.1 (mapM_filter_eq_ok (fun r c hc => ?_) hbuilt)
    rw [Container.uid_of_ofRecord hc]
  exact ⟨_, List.filter_sublist, describes_withChildren placed [] hkept⟩

theorem exists_describes_perm :
    ∃ all, List.Forall₂ DeviceRecord.Describes (selectedRecords selects records) all ∧
      (devices ++ containers.flatMap (·.children)).Perm all := by
  obtain ⟨built, placed, -, hplaced, rfl, rfl⟩ := buildDevices_eq_ok_iff.1 h
  exact ⟨_, describes_placed hplaced, devices_append_children_perm hplaced _⟩

end Built

theorem placement_of_buildDevices {selects : String → Bool} {records : List DeviceRecord}
    {containers : List Container} {devices : List Device}
    (h : buildDevices selects records = .ok (containers, devices)) :
    Placement selects records containers devices where
  standalone := describes_devices h
  first := fun _ _ _ => describes_children_of_first h
  later := fun _ _ _ => children_eq_nil_of_later h
  hosted := fun _ hr _ => exists_container_of_named h hr
  described := describesContainer_containers h
  once := exists_describes_perm h

/-- A device listed before its container, a second container of the same id, and a filter that
selects neither of the two. -/
theorem placement_of_child_before_container :
    ∃ containers devices, buildDevices (fun name => name != "bridge")
        [{ name := "lamp", uid := "hue:0210:b1:lamp", bridgeUid := some "hue:bridge:b1" },
          { name := "bridge", uid := "hue:bridge:b1", isBridge := true },
          { name := "plug", uid := "acme:switch:plug" },
          { name := "bridge", uid := "hue:bridge:b1", isBridge := true }] =
        .ok (containers, devices) ∧
      Placement (fun name => name != "bridge")
        [{ name := "lamp", uid := "hue:0210:b1:lamp", bridgeUid := some "hue:bridge:b1" },
          { name := "bridge", uid := "hue:bridge:b1", isBridge := true },
          { name := "plug", uid := "acme:switch:plug" },
          { name := "bridge", uid := "hue:bridge:b1", isBridge := true }] containers devices :=
  ⟨_, _, rfl, placement_of_buildDevices rfl⟩

end HomeCatalog
