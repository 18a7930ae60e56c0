import HomeCatalog.Proofs.Catalog.DanglingLinks

/-!
# What warnings say

The warnings of a catalog begin with what is repeated. There is one for each name that several
variables have and one for each id that several containers and devices have, with the number of them
and in the order in which they first come up, and there are none exactly if all names and all ids
differ (`warnings_of_repetition`).

The warnings about links come after these. No device has an id that one of them says is missing,
neither a device on its own nor the child of a container, but a container may have it: containers
are not looked at, and a link to an endpoint of a container's own makes a warning although the
container is there (`missing_of_warnings`, `own_endpoint_is_alarm`).
-/

namespace HomeCatalog

/-! ## Repeated texts -/

/-- The numbered texts are those that come up more than once, numbered by how often they do, in the
order in which they first come up. -/
structure IsTally (texts : List String) (rs : List (String × Nat)) : Prop where
  mem_iff : ∀ s n, (s, n) ∈ rs ↔ texts.count s = n ∧ 2 ≤ n
  inOrder : rs.Pairwise fun r r' => texts.idxOf r.1 < texts.idxOf r'.1

/-- What is picked from a list comes up in the order that it has there. -/
theorem idxOf_lt_of_filter {p : String → Bool} {s t : String} (hs : p s = true) (ht : p t = true)
    {xs : List String} (h : (xs.filter p).idxOf s < (xs.filter p).idxOf t) :
    xs.idxOf s < xs.idxOf t := by
  induction xs with
  | nil => exact h
  | cons x xs ih =>
    by_cases hx : p x = true
    -- a head that is picked moves both by one, unless it is one of the two
    · rw [List.filter_cons_of_pos hx] at h
      by_cases hxt : x = t
      · rw [hxt, List.idxOf_cons_self] at h
        exact absurd h (Nat.not_lt_zero _)
      by_cases hxs : x = s
      · rw [hxs, List.idxOf_cons_self, List.idxOf_cons_ne _ (hxs ▸ hxt)]
        exact Nat.succ_pos _
      · rw [List.idxOf_cons_ne _ hxs, List.idxOf_cons_ne _ hxt] at h ⊢
        exact Nat.succ_lt_succ (ih (Nat.lt_of_succ_lt_succ h))
    · have hne : ∀ u, p u = true → x ≠ u := fun u hu hxu => hx (hxu ▸ hu)
      rw [List.filter_cons_of_neg hx] at h
      rw [List.idxOf_cons_ne _ (hne s hs), List.idxOf_cons_ne _ (hne t ht)]
      exact Nat.succ_lt_succ (ih h)

theorem pairwise_idxOf_eraseDups (xs : List String) :
    xs.eraseDups.Pairwise fun s t => xs.idxOf s < xs.idxOf t := by
  match xs with
  | [] => exact .nil
  | x :: xs =>
    rw [List.eraseDups_cons, List.pairwise_cons]
    have hrest : ∀ t ∈ (xs.filter fun y => !y == x).eraseDups, t ≠ x := by
      intro t ht
      have := (List.mem_filter.1 (List.mem_eraseDups.1 ht)).2
      simpa using this
    -- The recursion puts the rest in the order of the list without the head's repetitions, which
    -- is the order in the list itself.
    constructor
    · intro t ht
      rw [List.idxOf_cons_self, List.idxOf_cons_ne _ (hrest t ht).symm]
      exact Nat.succ_pos _
    · refine (pairwise_idxOf_eraseDups _).imp_of_mem fun {s t} hs ht hlt => ?_
      rw [List.idxOf_cons_ne _ (hrest s hs).symm, List.idxOf_cons_ne _ (hrest t ht).symm]
      refine Nat.succ_lt_succ (idxOf_lt_of_filter ?_ ?_ hlt)
      · simpa using hrest s hs
      · simpa using hrest t ht
termination_by xs.length
decreasing_by exact Nat.lt_succ_of_le (List.length_filter_le _ _)

theorem isTally_repeated (texts : List String) : IsTally texts (repeated texts) where
  mem_iff s n := by
    simp only [repeated, List.mem_filter, List.mem_map, List.mem_eraseDups, Prod.mk.injEq,
      decide_eq_true_eq]
    constructor
    · rintro ⟨⟨t, -, rfl, hn⟩, htwo⟩
      exact ⟨hn, htwo⟩
    · rintro ⟨hn, htwo⟩
      refine ⟨⟨s, ?_, rfl, hn⟩, htwo⟩
      apply List.count_pos_iff.1
      omega
  inOrder := by
    rw [repeated]
    apply List.Pairwise.filter
    rw [List.pairwise_map]
    exact pairwise_idxOf_eraseDups texts

/-! ## The warnings in order -/

/-- The ids of the containers, then of the devices on their own, then of the children container by
container. -/
def Catalog.placedUids (c : Catalog) : List String :=
  c.containers.map (·.uid) ++ c.devices.map (·.uid) ++
    c.containers.flatMap fun k => k.children.map (·.uid)

theorem allUids_eq (c : Catalog) : c.allUids = c.placedUids := by
  rw [Catalog.allUids, Catalog.allDevices, Catalog.placedUids, List.map_append, List.map_flatMap,
    List.append_assoc]

/-- The warnings of a catalog are about these names, then about these ids, each with a number, and
then about links. -/
structure WarnsOf (c : Catalog) (names uids : List (String × Nat)) (links : List Warning) :
    Prop where
  isTally_names : IsTally (c.vars.map (·.name)) names
  isTally_uids : IsTally c.placedUids uids
  isDangling_links : ∀ w ∈ links, w.isDangling = true
  warnings_eq : c.warnings = names.map (fun r => .repeatedVariable r.1 r.2) ++
    uids.map (fun r => .repeatedDevice r.1 r.2) ++ links
  messages_eq : c.warnings.map Warning.message =
    names.map (fun r => s!"Variable '{r.1}' is defined {r.2} times.") ++
      uids.map (fun r => s!"Device '{r.1}' is defined {r.2} times.") ++ links.map Warning.message

theorem warnsOf_repeated (c : Catalog) :
    WarnsOf c (repeated (c.vars.map (·.name))) (repeated c.placedUids)
      (c.vars.flatMap (Catalog.danglingLinks (c.allDevices.map (·.uid)))) where
  isTally_names := isTally_repeated _
  isTally_uids := isTally_repeated _
  isDangling_links _ hw := isDangling_of_mem_danglingLinks hw
  warnings_eq := by rw [Catalog.warnings, allUids_eq]
  messages_eq := by
    rw [Catalog.warnings, allUids_eq, List.map_append, List.map_append, List.map_map, List.map_map]
    rfl

/-- Repetition is told first, of names and then of ids, and nothing is told exactly if there is
none. -/
theorem warnings_of_repetition (c : Catalog) :
    (∃ names uids links, WarnsOf c names uids links) ∧
      ((∀ w ∈ c.warnings, w.isDangling = true) ↔
        (c.vars.map (·.name)).Nodup ∧ c.placedUids.Nodup) := by
  have h := warnsOf_repeated c
  refine ⟨⟨_, _, _, h⟩, ?_⟩
  rw [← repeated_eq_nil_iff, ← repeated_eq_nil_iff, h.warnings_eq]
  simp only [List.forall_mem_append, List.forall_mem_map, Warning.isDangling]
  -- a warning of repetition is about no link, so there is none if all are about links
  constructor
  · rintro ⟨⟨hnames, huids⟩, -⟩
    refine ⟨List.eq_nil_iff_forall_not_mem.2 ?_, List.eq_nil_iff_forall_not_mem.2 ?_⟩
    · exact fun r hr => Bool.false_ne_true (hnames r hr)
    · exact fun r hr => Bool.false_ne_true (huids r hr)
  · rintro ⟨hnames, huids⟩
    rw [hnames, huids]
    exact ⟨⟨List.forall_mem_nil _, List.forall_mem_nil _⟩, h.isDangling_links⟩

/-- Two variables of one name around another, and a device with the id of a container. -/
example :
    Catalog.warnings
        { containers := [{ namespaceId := "hue", typeId := "bridge", containerId := "b1" }],
          devices := [
            { namespaceId := "acme", typeId := "plug", deviceId := "p1" },
            { namespaceId := "hue", typeId := "bridge", deviceId := "b1" }],
          vars := [
            { dataType := "Switch", name := "Light" },
            { dataType := "Number", name := "Power" },
            { dataType := "Dimmer", name := "Light" }] } =
      [.repeatedVariable "Light" 2, .repeatedDevice "hue:bridge:b1" 2] := by
  decide

/-! ## Links to devices that are there -/

/-- A device of this id stands on its own or is the child of a container. -/
def Catalog.HasDevice (c : Catalog) (uid : String) : Prop :=
  (∃ d ∈ c.devices, d.uid = uid) ∨ ∃ k ∈ c.containers, ∃ d ∈ k.children, d.uid = uid

/-- A variable has a link that leads to the device of this id. -/
def Catalog.LinksTo (c : Catalog) (uid : String) : Prop :=
  ∃ v ∈ c.vars, ∃ l, Entry.link l ∈ v.entries ∧ deviceUid? l.endpointId = some uid

theorem mem_allDevices_iff {c : Catalog} {uid : String} :
    uid ∈ c.allDevices.map (·.uid) ↔ c.HasDevice uid := by
  simp only [Catalog.allDevices, Catalog.HasDevice, List.mem_map, List.mem_append, List.mem_flatMap]
  constructor
  · rintro ⟨d, hd | ⟨k, hk, hd⟩, he⟩
    · exact .inl ⟨d, hd, he⟩
    · exact .inr ⟨k, hk, d, hd, he⟩
  · rintro (⟨d, hd, he⟩ | ⟨k, hk, d, hd, he⟩)
    · exact ⟨d, .inl hd, he⟩
    · exact ⟨d, .inr ⟨k, hk, hd⟩, he⟩

theorem mem_links_iff {v : Variable} {l : Link} :
    l ∈ v.entries.filterMap Entry.link? ↔ Entry.link l ∈ v.entries := by
  rw [List.mem_filterMap]
  constructor
  · rintro ⟨e, he, hl⟩
    cases e with
    | link l' =>
      cases hl
      exact he
    | note a => cases hl
  · intro he
    exact ⟨_, he, rfl⟩

theorem mem_warnings_iff {c : Catalog} {name endpointId uid : String} :
    .danglingLink name endpointId uid ∈ c.warnings ↔
      ∃ v ∈ c.vars, ∃ l, Entry.link l ∈ v.entries ∧ v.name = name ∧ l.endpointId = endpointId ∧
        (deviceUid? endpointId).getD "" = uid ∧ ¬ c.HasDevice uid := by
  have hfilter : .danglingLink name endpointId uid ∈ c.warnings ↔
      .danglingLink name endpointId uid ∈ c.warnings.filter Warning.isDangling := by
    simp [Warning.isDangling]
  rw [hfilter, filter_isDangling_warnings, List.mem_flatMap]
  refine exists_congr fun v => and_congr_right fun _ => ?_
  rw [danglingLinks_eq, List.mem_map]
  refine exists_congr fun l => ?_
  rw [List.mem_filter, mem_links_iff, deviceOfEndpoint_eq, Link.warning, Warning.danglingLink.injEq,
    Bool.not_eq_true', ← Bool.not_eq_true, List.contains_iff_mem, mem_allDevices_iff, and_assoc]
  refine and_congr_right fun _ => ?_
  constructor
  · rintro ⟨hmissing, hname, rfl, rfl⟩
    exact ⟨hname, rfl, rfl, hmissing⟩
  · rintro ⟨hname, rfl, rfl, hmissing⟩
    exact ⟨hmissing, hname, rfl, rfl⟩

theorem Container.uid_ne_empty (k : Container) : k.uid ≠ "" := by
  intro h
  simp [Container.uid, String.append_eq_empty_iff] at h

/-- A warning is true of devices. That a container is missing is said exactly if a link leads to an
endpoint of its own and no device has its id. -/
theorem missing_of_warnings (c : Catalog) :
    (∀ name endpointId uid, .danglingLink name endpointId uid ∈ c.warnings → ¬ c.HasDevice uid) ∧
      ∀ k ∈ c.containers,
        ((∃ name endpointId, .danglingLink name endpointId k.uid ∈ c.warnings) ↔
          c.LinksTo k.uid ∧ ¬ c.HasDevice k.uid) := by
  refine ⟨fun name endpointId uid hw => ?_, fun k _ => ?_⟩
  · obtain ⟨-, -, -, -, -, -, -, hmissing⟩ := mem_warnings_iff.1 hw
    exact hmissing
  constructor
  · rintro ⟨name, endpointId, hw⟩
    obtain ⟨v, hv, l, hl, -, rfl, huid, hmissing⟩ := mem_warnings_iff.1 hw
    refine ⟨⟨v, hv, l, hl, ?_⟩, hmissing⟩
    cases hd : deviceUid? l.endpointId with
    | none =>
      -- such a link is said to lead to the empty id, which no container has
      rw [hd] at huid
      exact absurd huid.symm k.uid_ne_empty
    | some uid =>
      rw [hd] at huid
      exact congrArg some huid
  · rintro ⟨⟨v, hv, l, hl, huid⟩, hmissing⟩
    refine ⟨v.name, l.endpointId, mem_warnings_iff.2 ⟨v, hv, l, hl, rfl, rfl, ?_, hmissing⟩⟩
    rw [huid, Option.getD_some]

/-- A container with a child, and links to an endpoint of each and to a device that is not there. -/
def bridgedHome : Catalog where
  containers := [{
    namespaceId := "hue", typeId := "bridge", containerId := "b1"
    children := [{
      namespaceId := "hue", typeId := "0210", containerId := some "b1", deviceId := "lamp" }] }]
  vars := [{
    dataType := "Switch", name := "Light"
    entries := [
      .link { name := "l1", endpointId := "hue:bridge:b1:status", variableName := "Light" },
      .link { name := "l2", endpointId := "hue:0210:b1:lamp:on", variableName := "Light" },
      .link { name := "l3", endpointId := "acme:switch:gone:on", variableName := "Light" }] }]

/-- Two of the links make warnings, one true and one false. -/
theorem missing_of_bridgedHome :
    bridgedHome.warnings = [
        .danglingLink "Light" "hue:bridge:b1:status" "hue:bridge:b1",
        .danglingLink "Light" "acme:switch:gone:on" "acme:switch:gone"] ∧
      ¬ bridgedHome.HasDevice "acme:switch:gone" ∧
      bridgedHome.LinksTo "hue:bridge:b1" ∧ ¬ bridgedHome.HasDevice "hue:bridge:b1" := by
  have hwarnings : bridgedHome.warnings = [
      .danglingLink "Light" "hue:bridge:b1:status" "hue:bridge:b1",
      .danglingLink "Light" "acme:switch:gone:on" "acme:switch:gone"] := by
    decide
  obtain ⟨hdevices, hcontainers⟩ := missing_of_warnings bridgedHome
  refine ⟨hwarnings, hdevices "Light" "acme:switch:gone:on" _ ?_, ?_⟩
  · rw [hwarnings]
    decide
  · refine (hcontainers _ List.mem_cons_self).1 ⟨"Light", "hue:bridge:b1:status", ?_⟩
    rw [hwarnings]
    decide

/-- A container with an endpoint and a link to it: the container is there, and is said to be
missing. -/
theorem own_endpoint_is_alarm :
    ∃ c, Catalog.ofRecords (fun _ => true)
        { devices := [{
            name := "hue:bridge:b1", uid := "hue:bridge:b1", isBridge := true
            endpoints := [{ uid := "hue:bridge:b1:status" }] }],
          vars := [{ name := "Status", itemType := "String" }],
          links := [{
            name := "Status -> hue:bridge:b1:status", channelUid := "hue:bridge:b1:status"
            itemName := some "Status" }] } = .ok c ∧
      .danglingLink "Status" "hue:bridge:b1:status" "hue:bridge:b1" ∈ c.warnings ∧
      ∃ k ∈ c.containers, k.uid = "hue:bridge:b1" := by
  refine ⟨{
    containers := [{ namespaceId := "hue", typeId := "bridge", containerId := "b1" }],
    vars := [{
      dataType := "String", name := "Status"
      entries := [.link {
        name := "Status -> hue:bridge:b1:status", endpointId := "hue:bridge:b1:status"
        variableName := "Status" }] }] }, rfl, by decide, by decide⟩

end HomeCatalog
