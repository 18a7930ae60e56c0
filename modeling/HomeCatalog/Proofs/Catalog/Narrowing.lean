import HomeCatalog.Pattern.NameFilter
import HomeCatalog.Proofs.Catalog.Attachment
import HomeCatalog.Proofs.Catalog.Placement

/-!
# What a name filter leaves

A filter only removes: a catalog that can be made without one can be made with one, and then has
some of the same devices, containers and variables in the same order, with some of the same children
and entries (`narrows_of_filter`). The same holds of any two tests on names of which one selects no
more than the other (`exists_narrows_of_imp`).

Every container is built whatever is selected, so both runs place their devices among the same
containers. A container of the narrower catalog is therefore one of the wider, and if it is the
first of its id there it is the first here (`narrows_withChildren`).
-/

namespace HomeCatalog

/-! ## Parts of a catalog -/

/-- The same container with some of the children. -/
structure Container.Narrows (c wide : Container) : Prop where
  fields : c = { wide with children := c.children }
  children : c.children.Sublist wide.children

/-- The same variable with some of the entries. -/
structure Variable.Narrows (v wide : Variable) : Prop where
  fields : v = { wide with entries := v.entries }
  entries : v.entries.Sublist wide.entries

/-- Some of the devices, containers and variables of a catalog, in the same order. -/
structure Catalog.Narrows (c wide : Catalog) : Prop where
  devices : c.devices.Sublist wide.devices
  containers : List.SublistForall₂ Container.Narrows c.containers wide.containers
  vars : List.SublistForall₂ Variable.Narrows c.vars wide.vars

theorem Container.Narrows.uid_eq {c wide : Container} (h : c.Narrows wide) : c.uid = wide.uid := by
  rw [h.fields, Container.uid_withChildren]

/-! ## Children and entries -/

section WithChildren

variable {placed widely : List (Option String × Device)} (hsub : placed.Sublist widely)

include hsub

theorem hostedBy_sublist (uid : String) : (hostedBy placed uid).Sublist (hostedBy widely uid) :=
  hsub.filterMap _

/-- Where fewer devices are placed the containers are the same, with fewer children. -/
theorem narrows_withChildren (seen : List String) (cs : List Container) :
    List.Forall₂ Container.Narrows (withChildren placed seen cs) (withChildren widely seen cs) := by
  induction cs generalizing seen with
  | nil => exact .nil
  | cons c cs ih =>
    -- The ids before are the same in both lists, so `c` has all children of its id or none in both.
    refine .cons ⟨rfl, ?_⟩ (ih _)
    dsimp only
    split
    · exact .refl _
    · exact hostedBy_sublist hsub c.uid

/-- If fewer ids are kept, too, some of the containers are left out. -/
theorem narrows_kept {kept wideKept : List String} (hkept : kept ⊆ wideKept)
    (built : List Container) :
    List.SublistForall₂ Container.Narrows
      (withChildren placed [] (built.filter fun c => kept.contains c.uid))
      (withChildren widely [] (built.filter fun c => wideKept.contains c.uid)) := by
  have htwice : (built.filter fun c => kept.contains c.uid) =
      (built.filter fun c => wideKept.contains c.uid).filter fun c => kept.contains c.uid := by
    rw [List.filter_filter]
    refine List.filter_congr fun c _ => ?_
    rw [Bool.eq_iff_iff, Bool.and_eq_true, List.contains_iff_mem, List.contains_iff_mem]
    exact ⟨fun h => ⟨h, hkept h⟩, And.left⟩
  -- All containers of an id are kept or none, so it does not matter when they are left out.
  rw [htwice, ← filter_withChildren kept.contains]
  refine List.sublistForall₂_iff.2 ⟨(withChildren widely [] _).filter fun c => kept.contains c.uid,
    List.rel_filter (fun c wide hc => ?_) (narrows_withChildren hsub [] _), List.filter_sublist⟩
  simp only [hc.uid_eq]

end WithChildren

theorem entriesFor_sublist {ls wideLinks : List Link} {ns wideNotes : List Note}
    (hl : ls.Sublist wideLinks) (hn : ns.Sublist wideNotes) (name : String) :
    (entriesFor ls ns name).Sublist (entriesFor wideLinks wideNotes name) :=
  ((hl.filter _).map _).append ((hn.filter _).map _)

/-! ## Two tests on names -/

section Imp

variable {selects wide : String → Bool} (himp : ∀ name, selects name = true → wide name = true)

include himp

theorem filter_selects_sublist {α : Type} (name : α → String) (rs : List α) :
    (rs.filter fun r => selects (name r)).Sublist (rs.filter fun r => wide (name r)) :=
  List.monotone_filter_right rs fun r => himp (name r)

theorem selectedRecords_sublist (records : List DeviceRecord) :
    (selectedRecords selects records).Sublist (selectedRecords wide records) := by
  refine List.monotone_filter_right records fun r hr => ?_
  rw [Bool.and_eq_true] at hr ⊢
  exact ⟨hr.1, himp r.name hr.2⟩

theorem keptUids_subset (bridges : List DeviceRecord)
    {placed widely : List (Option String × Device)} (hsub : placed.Sublist widely) :
    keptUids selects bridges placed ⊆ keptUids wide bridges widely :=
  (((filter_selects_sublist himp DeviceRecord.name bridges).map _).append
    (hsub.filterMap _)).subset

theorem exists_buildDevices_of_imp {records : List DeviceRecord} {containers : List Container}
    {devices : List Device} (h : buildDevices wide records = .ok (containers, devices)) :
    ∃ cs ds, buildDevices selects records = .ok (cs, ds) ∧ ds.Sublist devices ∧
      List.SublistForall₂ Container.Narrows cs containers := by
  obtain ⟨built, widely, hbuilt, hwidely, rfl, rfl⟩ := buildDevices_eq_ok_iff.1 h
  obtain ⟨placed, hplaced, hsub⟩ :=
    exists_mapM_of_sublist (selectedRecords_sublist himp records) hwidely
  exact ⟨_, _, buildDevices_eq_ok_iff.2 ⟨built, placed, hbuilt, hplaced, rfl, rfl⟩,
    hsub.filterMap _, narrows_kept hsub (keptUids_subset himp _ hsub) built⟩

theorem exists_buildVariables_of_imp {vars : List VariableRecord} {links : List LinkRecord}
    {notes : List NoteRecord} {built : List Variable}
    (h : buildVariables wide vars links notes = .ok built) :
    ∃ vs, buildVariables selects vars links notes = .ok vs ∧
      List.SublistForall₂ Variable.Narrows vs built := by
  obtain ⟨wideLinks, wideNotes, widely, hlinks, hnotes, hvars, rfl⟩ :=
    buildVariables_eq_ok_iff.1 h
  obtain ⟨ls, hls, hlsub⟩ :=
    exists_mapM_of_sublist (filter_selects_sublist himp LinkRecord.name links) hlinks
  obtain ⟨ns, hns, hnsub⟩ :=
    exists_mapM_of_sublist (filter_selects_sublist himp NoteRecord.name notes) hnotes
  obtain ⟨vs, hvs, hvsub⟩ :=
    exists_mapM_of_sublist (filter_selects_sublist himp VariableRecord.name vars) hvars
  refine ⟨_, buildVariables_eq_ok_iff.2 ⟨ls, ns, vs, hls, hns, hvs, rfl⟩,
    List.sublistForall₂_iff.2 ⟨_, ?_, hvsub.map _⟩⟩
  refine List.forall₂_map_left_iff.2 (List.forall₂_map_right_iff.2 (List.forall₂_same.2 ?_))
  intro v _
  exact ⟨rfl, entriesFor_sublist hlsub hnsub v.name⟩

/-- What selects less makes less, and makes it wherever what selects more does. -/
theorem exists_narrows_of_imp {records : RecordSet} {c : Catalog}
    (h : Catalog.ofRecords wide records = .ok c) :
    ∃ d, Catalog.ofRecords selects records = .ok d ∧ d.Narrows c := by
  obtain ⟨⟨containers, devices⟩, hdevices, h⟩ := bind_eq_ok_iff.1 h
  obtain ⟨vars, hvars, h⟩ := bind_eq_ok_iff.1 h
  cases h
  obtain ⟨cs, ds, hds, hdsub, hcsub⟩ := exists_buildDevices_of_imp himp hdevices
  obtain ⟨vs, hvs, hvsub⟩ := exists_buildVariables_of_imp himp hvars
  exact ⟨⟨cs, ds, vs⟩, bind_eq_ok_iff.2 ⟨_, hds, bind_eq_ok_iff.2 ⟨_, hvs, rfl⟩⟩,
    hdsub, hcsub, hvsub⟩

end Imp

/-! ## Filters -/

/-- Whatever test on names is made, it takes away from what is made of all records. -/
theorem narrows_of_filter (selects : String → Bool) {records : RecordSet} {c : Catalog}
    (h : Catalog.ofRecords (NameFilter.selects none) records = .ok c) :
    ∃ d, Catalog.ofRecords selects records = .ok d ∧ d.Narrows c :=
  exists_narrows_of_imp (fun _ _ => rfl) h

/-- Two containers, one child of the one and two of the other, and two variables with links. -/
def atticAndHall : RecordSet where
  devices := [
    { name := "attic lamp", uid := "hue:0210:b2:l3", bridgeUid := some "hue:bridge:b2" },
    { name := "hall lamp", uid := "hue:0210:b1:l1", bridgeUid := some "hue:bridge:b1" },
    { name := "attic bridge", uid := "hue:bridge:b2", isBridge := true },
    { name := "attic spot", uid := "hue:0210:b1:l2", bridgeUid := some "hue:bridge:b1" },
    { name := "attic bridge", uid := "hue:bridge:b1", isBridge := true }]
  vars := [{ name := "attic", itemType := "Switch" }, { name := "hall", itemType := "Dimmer" }]
  links := [
    { name := "attic link", channelUid := "hue:0210:b1:l1:on", itemName := some "hall" },
    { name := "link", channelUid := "hue:0210:b1:l1:on", itemName := some "attic" },
    { name := "link", channelUid := "hue:0210:b1:l1:level", itemName := some "hall" }]

/-- Without the attic one container is left for its child in the hall, and one variable with one of
its two links. -/
theorem narrows_without_attic :
    ∃ c, Catalog.ofRecords (NameFilter.selects none) atticAndHall = .ok c ∧
      ∃ d, Catalog.ofRecords (fun name => !"attic".toList.isPrefixOf name.toList) atticAndHall =
          .ok d ∧ d.Narrows c :=
  ⟨_, rfl, narrows_of_filter _ rfl⟩

end HomeCatalog
