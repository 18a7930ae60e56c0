import HomeCatalog.Proofs.Catalog.Placement

/-!
# Which containers are kept

Every container is built, and a container is kept if it is selected by name or has a child
(`isChosen`). But those that are kept are remembered by their ids, so a container also stays for
the sake of another one of its id (`selection_of_buildDevices`). Where ids are not repeated there
is no other one. Where an id is repeated, it may happen that a container is written which nobody
selected and which has no children (`unselected_container_is_kept`).
-/

namespace HomeCatalog

/-- All containers with their records and children, before it is known which are kept. -/
structure Hosting (selects : String → Bool) (records : List DeviceRecord)
    (built : List (DeviceRecord × Container)) : Prop where
  /-- There is one for each record of a container, in order. -/
  all : built.map (·.1) = records.filter (·.isBridge)
  described : ∀ p ∈ built, p.1.DescribesContainer p.2
  /-- The first container of an id has the devices that name it, in order. -/
  first : ∀ before p after, built = before ++ p :: after → p.1.uid ∉ before.map (·.1.uid) →
    List.Forall₂ DeviceRecord.Describes (hostedRecords selects records p.1.uid) p.2.children
  /-- A later container of the id has none. -/
  later : ∀ before p after, built = before ++ p :: after → p.1.uid ∈ before.map (·.1.uid) →
    p.2.children = []

def isChosen (selects : String → Bool) (p : DeviceRecord × Container) : Bool :=
  selects p.1.name || !p.2.children.isEmpty

/-- A container of the same id is chosen. -/
def hasChosenNamesake (selects : String → Bool) (built : List (DeviceRecord × Container))
    (p : DeviceRecord × Container) : Bool :=
  built.any fun q => q.1.uid == p.1.uid && isChosen selects q

/-! ## Lists -/

section Lists

universe u v

variable {α : Type u} {β : Type v}

theorem exists_pairs {R : α → β → Prop} {xs : List α} {ys : List β} (h : List.Forall₂ R xs ys) :
    ∃ ps : List (α × β), ps.map (·.1) = xs ∧ ps.map (·.2) = ys ∧ ∀ p ∈ ps, R p.1 p.2 := by
  obtain ⟨hlength, hpairs⟩ := List.forall₂_iff_zip.1 h
  exact ⟨xs.zip ys, List.map_fst_zip (Nat.le_of_eq hlength),
    List.map_snd_zip (Nat.le_of_eq hlength.symm), fun p hp => hpairs hp⟩

/-- Of two tests the stronger one keeps as much as the weaker one only if they agree. -/
theorem map_filter_eq_map_filter_iff {p q : α → Bool} {xs : List α} (f : α → β)
    (hpq : ∀ x ∈ xs, p x = true → q x = true) :
    (xs.filter q).map f = (xs.filter p).map f ↔ ∀ x ∈ xs, q x = true → p x = true := by
  constructor
  · intro h x hx hq
    have htwice : xs.filter p = (xs.filter q).filter p := by
      rw [List.filter_filter]
      refine List.filter_congr fun y hy => ?_
      rw [Bool.eq_iff_iff, Bool.and_eq_true]
      exact ⟨fun hp => ⟨hp, hpq y hy hp⟩, And.left⟩
    have hsub : (xs.filter p).Sublist (xs.filter q) := by
      rw [htwice]
      exact List.filter_sublist
    have hlength : (xs.filter p).length = (xs.filter q).length := by
      simpa using (congrArg List.length h).symm
    have hsame : xs.filter p = xs.filter q := hsub.eq_of_length hlength
    have hmem : x ∈ xs.filter p := hsame ▸ List.mem_filter.2 ⟨hx, hq⟩
    exact (List.mem_filter.1 hmem).2
  · intro h
    refine congrArg (List.map f) (List.filter_congr fun x hx => ?_)
    exact Bool.eq_iff_iff.2 ⟨h x hx, hpq x hx⟩

end Lists

/-! ## The ids that are kept -/

section Kept

variable {placed : List (Option String × Device)} {uid : String}

theorem hostedBy_ne_nil_iff : hostedBy placed uid ≠ [] ↔ uid ∈ placed.filterMap (·.1) := by
  rw [hostedBy_eq, ne_eq, List.map_eq_nil_iff, List.filter_eq_nil_iff, List.mem_filterMap]
  simp

/-- An id has a container with a child exactly if a device was placed in it and it is the id of a
container at all. -/
theorem exists_children_iff {seen : List String} {cs : List Container} :
    (∃ c ∈ withChildren placed seen cs, c.uid = uid ∧ c.children ≠ []) ↔
      uid ∉ seen ∧ uid ∈ cs.map (·.uid) ∧ hostedBy placed uid ≠ [] := by
  -- Only the first container of an id is given devices, so those seen so far have to vary.
  induction cs generalizing seen with
  | nil => simp [withChildren]
  | cons c cs ih =>
    have htail := @ih (c.uid :: seen)
    rw [withChildren, List.exists_mem_cons_iff, htail, Container.uid_withChildren, List.map_cons]
    by_cases hc : c.uid = uid
    · subst hc
      by_cases hs : c.uid ∈ seen <;> simp [hs]
    · simp [hc, Ne.symm hc]

theorem mem_keptUids_iff {selects : String → Bool} {bridges : List DeviceRecord} :
    uid ∈ keptUids selects bridges placed ↔
      (∃ r ∈ bridges, r.uid = uid ∧ selects r.name = true) ∨ hostedBy placed uid ≠ [] := by
  rw [keptUids, List.mem_append, hostedBy_ne_nil_iff]
  refine or_congr_left ?_
  simp only [List.mem_map, List.mem_filter]
  constructor
  · rintro ⟨r, ⟨hr, hs⟩, hu⟩
    exact ⟨r, hr, hu, hs⟩
  · rintro ⟨r, hr, hu, hs⟩
    exact ⟨r, ⟨hr, hs⟩, hu⟩

end Kept

/-! ## All containers -/

section Built

variable {selects : String → Bool} {records : List DeviceRecord} {built : List Container}
  {placed : List (Option String × Device)}

theorem hosting_of_pairs
    (hplaced : (selectedRecords selects records).mapM (placedDevice built) = .ok placed)
    {pairs : List (DeviceRecord × Container)}
    (hrecords : pairs.map (·.1) = records.filter (·.isBridge))
    (hcontainers : pairs.map (·.2) = withChildren placed [] built)
    (hdescribed : ∀ p ∈ pairs, p.1.DescribesContainer p.2) : Hosting selects records pairs := by
  have hchildren : ∀ before p after, pairs = before ++ p :: after → p.2.children =
      if p.1.uid ∈ before.map (·.1.uid) then [] else hostedBy placed p.1.uid := by
    rintro before p after rfl
    have huids : before.map (·.1.uid) = (before.map (·.2)).map (·.uid) := by
      rw [List.map_map]
      exact List.map_congr_left fun q hq => (hdescribed q (List.mem_append_left _ hq)).2.symm
    have hp : p.2.uid = p.1.uid :=
      (hdescribed p (List.mem_append_right _ List.mem_cons_self)).2
    rw [List.map_append, List.map_cons] at hcontainers
    rw [huids, ← hp, children_of_withChildren_eq hcontainers.symm]
    simp only [List.not_mem_nil, false_or]
  refine ⟨hrecords, hdescribed, fun before p after hp hfirst => ?_,
    fun before p after hp hlater => ?_⟩
  · rw [hchildren before p after hp, if_neg hfirst]
    exact describes_hostedBy p.1.uid hplaced
  · rw [hchildren before p after hp, if_pos hlater]

/-- An id is kept exactly if one of its containers is chosen. -/
theorem mem_keptUids_iff_hasChosenNamesake {pairs : List (DeviceRecord × Container)}
    (hrecords : pairs.map (·.1) = records.filter (·.isBridge))
    (hcontainers : pairs.map (·.2) = withChildren placed [] built)
    (hdescribed : ∀ p ∈ pairs, p.1.DescribesContainer p.2) {p : DeviceRecord × Container}
    (hp : p ∈ pairs) :
    p.2.uid ∈ keptUids selects (records.filter (·.isBridge)) placed ↔
      hasChosenNamesake selects pairs p = true := by
  have hhosts : hostedBy placed p.1.uid ≠ [] ↔
      ∃ q ∈ pairs, q.1.uid = p.1.uid ∧ q.2.children ≠ [] := by
    have hnames : p.1.uid ∈ built.map (·.uid) := by
      rw [← map_uid_withChildren [] built, ← hcontainers, List.map_map]
      exact List.mem_map.2 ⟨p, hp, (hdescribed p hp).2⟩
    have hall : (∃ c ∈ pairs.map (·.2), c.uid = p.1.uid ∧ c.children ≠ []) ↔
        hostedBy placed p.1.uid ≠ [] := by
      rw [hcontainers, exists_children_iff]
      simp [hnames]
    rw [← hall]
    simp only [List.mem_map, exists_exists_and_eq_and]
    exact exists_congr fun q => and_congr_right fun hq => by rw [(hdescribed q hq).2]
  rw [(hdescribed p hp).2, mem_keptUids_iff, hhosts, ← hrecords, hasChosenNamesake,
    List.any_eq_true]
  simp only [isChosen, Bool.and_eq_true, beq_iff_eq, Bool.or_eq_true, Bool.not_eq_true',
    List.isEmpty_eq_false_iff, List.mem_map, exists_exists_and_eq_and]
  constructor
  · rintro (⟨q, hq, hu, hs⟩ | ⟨q, hq, hu, hc⟩)
    · exact ⟨q, hq, hu, .inl hs⟩
    · exact ⟨q, hq, hu, .inr hc⟩
  · rintro ⟨q, hq, hu, hs | hc⟩
    · exact .inl ⟨q, hq, hu, hs⟩
    · exact .inr ⟨q, hq, hu, hc⟩

end Built

/-- The containers that are kept are, in order, those of which one with the same id is chosen. They
are those that are chosen themselves exactly if no other container stands in for one that is not. -/
theorem selection_of_buildDevices {selects : String → Bool} {records : List DeviceRecord}
    {containers : List Container} {devices : List Device}
    (h : buildDevices selects records = .ok (containers, devices)) :
    ∃ built, Hosting selects records built ∧
      containers = (built.filter (hasChosenNamesake selects built)).map (·.2) ∧
      (containers = (built.filter (isChosen selects)).map (·.2) ↔
        ∀ p ∈ built, ∀ q ∈ built, q.1.uid = p.1.uid → isChosen selects q = true →
          isChosen selects p = true) := by
  obtain ⟨built, placed, hbuilt, hplaced, rfl, -⟩ := buildDevices_eq_ok_iff.1 h
  obtain ⟨pairs, hrecords, hcontainers, hdescribed⟩ :=
    exists_pairs (describes_withChildren placed [] (mapM_eq_ok_iff.1 hbuilt))
  have hkept : withChildren placed [] (built.filter fun c =>
      (keptUids selects (records.filter (·.isBridge)) placed).contains c.uid) =
      (pairs.filter (hasChosenNamesake selects pairs)).map (·.2) := by
    let kept := keptUids selects (records.filter (·.isBridge)) placed
    rw [← filter_withChildren kept.contains, ← hcontainers, List.filter_map]
    refine congrArg (List.map _) (List.filter_congr fun p hp => ?_)
    rw [Bool.eq_iff_iff, Function.comp_apply, List.contains_iff_mem]
    exact mem_keptUids_iff_hasChosenNamesake hrecords hcontainers hdescribed hp
  have hself : ∀ p ∈ pairs, isChosen selects p = true → hasChosenNamesake selects pairs p = true :=
    fun p hp hc => List.any_eq_true.2 ⟨p, hp, by simp [hc]⟩
  refine ⟨pairs, hosting_of_pairs hplaced hrecords hcontainers hdescribed, hkept, ?_⟩
  rw [hkept, map_filter_eq_map_filter_iff _ hself]
  simp only [hasChosenNamesake, List.any_eq_true, Bool.and_eq_true, beq_iff_eq]
  refine forall₂_congr fun p _ => ⟨fun hp q hq hu hc => hp ⟨q, hq, hu, hc⟩, ?_⟩
  rintro hp ⟨q, hq, hu, hc⟩
  exact hp q hq hu hc

/-- A container that is selected, one that is not and has a child, and one that is not and has
none. -/
def threeBridges : List DeviceRecord := [
  { name := "lamp", uid := "hue:0210:b2:lamp", bridgeUid := some "hue:bridge:b2" },
  { name := "cellar", uid := "hue:bridge:b3", isBridge := true },
  { name := "hall", uid := "hue:bridge:b1", isBridge := true },
  { name := "attic", uid := "hue:bridge:b2", isBridge := true }]

theorem selection_of_threeBridges :
    ∃ containers devices,
      buildDevices (fun name => name == "hall" || name == "lamp") threeBridges =
        .ok (containers, devices) ∧
      containers.map (·.uid) = ["hue:bridge:b1", "hue:bridge:b2"] ∧
      ∃ built, Hosting (fun name => name == "hall" || name == "lamp") threeBridges built ∧
        containers = (built.filter
          (hasChosenNamesake (fun name => name == "hall" || name == "lamp") built)).map (·.2) ∧
        (containers = (built.filter
            (isChosen fun name => name == "hall" || name == "lamp")).map (·.2) ↔
          ∀ p ∈ built, ∀ q ∈ built, q.1.uid = p.1.uid →
            isChosen (fun name => name == "hall" || name == "lamp") q = true →
              isChosen (fun name => name == "hall" || name == "lamp") p = true) :=
  ⟨_, _, rfl, rfl, selection_of_buildDevices rfl⟩

/-- Two containers of one id: the hall is selected, and the attic is kept with it. -/
theorem unselected_container_is_kept :
    ∃ containers devices, buildDevices (fun name => name == "hall")
        [{ name := "hall", uid := "hue:bridge:b1", label := some "Hall", isBridge := true },
          { name := "attic", uid := "hue:bridge:b1", label := some "Attic", isBridge := true }] =
        .ok (containers, devices) ∧
      ∃ c ∈ containers, c.children = [] ∧
        ∀ r ∈ [{ name := "hall", uid := "hue:bridge:b1", label := some "Hall", isBridge := true },
            { name := "attic", uid := "hue:bridge:b1", label := some "Attic", isBridge := true }],
          DeviceRecord.DescribesContainer r c → (r.name == "hall") = false := by
  refine ⟨_, _, rfl, _, .tail _ (.head _), rfl, ?_⟩
  simp only [List.forall_mem_cons]
  refine ⟨?_, fun _ => by decide, by simp⟩
  rintro ⟨h, -⟩
  have hname := congrArg (Except.map Container.displayName) h
  exact absurd hname (by decide)

end HomeCatalog
