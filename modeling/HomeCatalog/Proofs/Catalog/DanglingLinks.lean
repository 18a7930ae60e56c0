import HomeCatalog.Proofs.Catalog.Identity

/-!
# Links that lead nowhere

A link names an endpoint by its full id, and all segments of that id but the last are the id of the
device (`deviceUid?`). The warnings about links are exact in terms of the records: there is one for
each link whose device is none of the selected ones, in the order of the variables and of what is
attached to them (`danglingLinks_of_ofRecords`). The check itself looks at ids that are put together
from the segments of built devices, wherever these have been placed. It comes to the same because
every selected device is somewhere and keeps its id, and no device has an empty one.
-/

namespace HomeCatalog

/-- The id of the device that an endpoint belongs to: all segments but the last. An endpoint's id of
one segment names no device. -/
def deviceUid? (endpointId : String) : Option String :=
  match (Text.split ':' endpointId).dropLast with
  | [] => none
  | parts => some (Text.join ':' parts)

def Warning.isDangling : Warning → Bool
  | .danglingLink .. => true
  | .repeatedVariable .. | .repeatedDevice .. => false

def Entry.link? : Entry → Option Link
  | .link l => some l
  | .note _ => none

/-- No selected record is that of the device that the link leads to. -/
def leadsNowhere (selects : String → Bool) (records : List DeviceRecord) (l : Link) : Bool :=
  !(selectedRecords selects records).any fun r => deviceUid? l.endpointId == some r.uid

def Link.warning (variableName : String) (l : Link) : Warning :=
  .danglingLink variableName l.endpointId ((deviceUid? l.endpointId).getD "")

/-! ## The device of an endpoint -/

theorem exists_last_colon {cs : List Char} (h : ':' ∈ cs) :
    ∃ xs ys, cs = xs ++ ':' :: ys ∧ ':' ∉ ys := by
  obtain ⟨ys, xs, hsplit, hys⟩ := List.eq_append_cons_of_mem (List.mem_reverse.2 h)
  refine ⟨xs.reverse, ys.reverse, ?_, by simpa using hys⟩
  have hcs := congrArg List.reverse hsplit
  simpa using hcs

/-- What stands before the last colon is what all segments but the last are joined to. -/
theorem deviceOfEndpoint_eq (endpointId : String) :
    Catalog.deviceOfEndpoint endpointId = (deviceUid? endpointId).getD "" := by
  unfold Catalog.deviceOfEndpoint deviceUid?
  by_cases hcolon : ':' ∈ endpointId.toList
  · obtain ⟨xs, ys, hid, hys⟩ := exists_last_colon hcolon
    have hsplit : Text.split ':' endpointId =
        Text.split ':' (String.ofList xs) ++ [String.ofList ys] := by
      rw [← Text.split_of_not_mem (s := String.ofList ys) (by simpa using hys)]
      exact Text.split_append_separator (by simpa using hid)
    have hdrop : endpointId.toList.reverse.dropWhile (· != ':') = ':' :: xs.reverse := by
      have hall : ∀ c ∈ ys.reverse, (c != ':') = true := by
        intro c hc
        rw [bne_iff_ne]
        rintro rfl
        exact hys (List.mem_reverse.1 hc)
      rw [hid, List.reverse_append, List.reverse_cons, List.append_assoc,
        List.dropWhile_append_of_pos hall]
      rfl
    rw [hdrop, hsplit, List.dropLast_concat]
    split
    · next hnil => exact absurd hnil (Text.split_ne_nil _ _)
    · simp [Text.join_split]
  · have hdrop : endpointId.toList.reverse.dropWhile (· != ':') = [] := by
      rw [List.dropWhile_eq_nil_iff]
      intro c hc
      rw [bne_iff_ne]
      rintro rfl
      exact hcolon (List.mem_reverse.1 hc)
    rw [hdrop, Text.split_of_not_mem hcolon]
    rfl

/-! ## What is warned about -/

theorem danglingLinks_eq (uids : List String) (v : Variable) :
    Catalog.danglingLinks uids v =
      ((v.entries.filterMap Entry.link?).filter fun l =>
        !uids.contains (Catalog.deviceOfEndpoint l.endpointId)).map (Link.warning v.name) := by
  have hstep : Catalog.danglingLinks uids v =
      (v.entries.filterMap Entry.link?).filterMap fun l =>
        if ¬ uids.contains (Catalog.deviceOfEndpoint l.endpointId) = true then
          some (Link.warning v.name l) else none := by
    rw [Catalog.danglingLinks, List.filterMap_filterMap]
    refine List.filterMap_congr fun e _ => ?_
    cases e with
    | link l =>
      rw [Entry.link?, Option.bind_some, ite_not, Link.warning, ← deviceOfEndpoint_eq]
    | note a => rfl
  rw [hstep, filterMap_ite_some]
  refine congrArg _ (List.filter_congr fun l _ => ?_)
  rw [decide_not, Bool.decide_eq_true]

theorem isDangling_of_mem_danglingLinks {uids : List String} {vs : List Variable} {w : Warning}
    (hw : w ∈ vs.flatMap (Catalog.danglingLinks uids)) : w.isDangling = true := by
  obtain ⟨v, -, hw⟩ := List.mem_flatMap.1 hw
  rw [danglingLinks_eq] at hw
  obtain ⟨l, -, rfl⟩ := List.mem_map.1 hw
  rfl

/-- The warnings about links come last, and there are no others among them. -/
theorem filter_isDangling_warnings (c : Catalog) :
    c.warnings.filter Warning.isDangling =
      c.vars.flatMap (Catalog.danglingLinks (c.allDevices.map (·.uid))) := by
  have hothers : ∀ (f : String × Nat → Warning) (rs : List (String × Nat)),
      (∀ r, (f r).isDangling = false) → (rs.map f).filter Warning.isDangling = [] := by
    intro f rs hf
    rw [List.filter_eq_nil_iff, List.forall_mem_map]
    intro r _
    simp [hf r]
  rw [Catalog.warnings, List.filter_append, List.filter_append, hothers _ _ fun _ => rfl,
    hothers _ _ fun _ => rfl, List.filter_eq_self.2 fun _ => isDangling_of_mem_danglingLinks,
    List.nil_append, List.nil_append]

section Built

variable {selects : String → Bool} {records : RecordSet} {c : Catalog}
  (h : Catalog.ofRecords selects records = .ok c)

include h

theorem mem_uids_iff {uid : String} :
    uid ∈ c.allDevices.map (·.uid) ↔
      ∃ r ∈ selectedRecords selects records.devices, r.uid = uid := by
  obtain ⟨hrecord, hdevice⟩ := exists_describes_allDevices h
  rw [List.mem_map]
  constructor
  · rintro ⟨d, hd, rfl⟩
    obtain ⟨r, hr, hrd⟩ := hrecord d hd
    exact ⟨r, hr, (Device.uid_of_ofRecord hrd).symm⟩
  · rintro ⟨r, hr, rfl⟩
    obtain ⟨d, hd, hrd⟩ := hdevice r hr
    exact ⟨d, hd, Device.uid_of_ofRecord hrd⟩

/-- A device has an id of several segments, and its record the same one. -/
theorem uid_ne_empty {r : DeviceRecord} (hr : r ∈ selectedRecords selects records.devices) :
    r.uid ≠ "" := by
  obtain ⟨d, -, hrd⟩ := (exists_describes_allDevices h).2 r hr
  have hsplit := Device.split_uid_of_ofRecord hrd
  intro hempty
  rw [hempty] at hsplit
  have hlength := congrArg List.length hsplit
  simp [Device.segments, Text.split, Text.pieces] at hlength

theorem contains_deviceOfEndpoint (l : Link) :
    (!(c.allDevices.map (·.uid)).contains (Catalog.deviceOfEndpoint l.endpointId)) =
      leadsNowhere selects records.devices l := by
  rw [leadsNowhere, Bool.not_inj_iff, Bool.eq_iff_iff, List.contains_iff_mem, mem_uids_iff h,
    deviceOfEndpoint_eq, List.any_eq_true]
  refine exists_congr fun r => and_congr_right fun hr => ?_
  cases hd : deviceUid? l.endpointId with
  | none => simpa using uid_ne_empty h hr
  | some uid =>
    rw [Option.getD_some, beq_iff_eq, Option.some_inj]
    exact eq_comm

end Built

/-- There is a warning for each link whose device is none of the selected records, and no other
warning about links. -/
theorem danglingLinks_of_ofRecords {selects : String → Bool} {records : RecordSet} {c : Catalog}
    (h : Catalog.ofRecords selects records = .ok c) :
    c.warnings.filter Warning.isDangling =
      c.vars.flatMap fun v =>
        ((v.entries.filterMap Entry.link?).filter
          (leadsNowhere selects records.devices)).map (Link.warning v.name) := by
  rw [filter_isDangling_warnings]
  refine List.flatMap_congr fun v _ => ?_
  rw [danglingLinks_eq]
  exact congrArg _ (List.filter_congr fun l _ => contains_deviceOfEndpoint h l)

/-- A child and a device on its own, links to both, a link to a device that is not there, a link
without a device, and a note. -/
def linkedHome : RecordSet where
  devices := [
    { name := "bridge", uid := "hue:bridge:b1", isBridge := true },
    { name := "lamp", uid := "hue:0210:b1:lamp", bridgeUid := some "hue:bridge:b1" },
    { name := "plug", uid := "acme:switch:plug" }]
  vars := [{ name := "Light", itemType := "Switch" }, { name := "Power", itemType := "Number" }]
  links := [
    { name := "l1", channelUid := "acme:switch:plug:power", itemName := some "Power" },
    { name := "l2", channelUid := "hue:0210:b1:lamp:on", itemName := some "Light" },
    { name := "l3", channelUid := "hue:bridge:b1:on", itemName := some "Light" },
    { name := "l4", channelUid := "on", itemName := some "Light" }]
  notes := [{ name := "ga:Light", value := "Light" }]

/-- The plug is not selected, and a container is no device that a link can lead to. -/
theorem danglingLinks_of_linkedHome :
    ∃ c, Catalog.ofRecords (fun name => name != "plug") linkedHome = .ok c ∧
      c.warnings.filter Warning.isDangling = [
        .danglingLink "Light" "hue:bridge:b1:on" "hue:bridge:b1",
        .danglingLink "Light" "on" "",
        .danglingLink "Power" "acme:switch:plug:power" "acme:switch:plug"] := by
  obtain ⟨c, hc, hvars⟩ :
      ∃ c, Catalog.ofRecords (fun name => name != "plug") linkedHome = .ok c ∧
        (c.vars.flatMap fun v => ((v.entries.filterMap Entry.link?).filter
          (leadsNowhere (fun name => name != "plug") linkedHome.devices)).map
            (Link.warning v.name)) = [
          .danglingLink "Light" "hue:bridge:b1:on" "hue:bridge:b1",
          .danglingLink "Light" "on" "",
          .danglingLink "Power" "acme:switch:plug:power" "acme:switch:plug"] :=
    ⟨_, rfl, rfl⟩
  exact ⟨c, hc, (danglingLinks_of_ofRecords hc).trans hvars⟩

end HomeCatalog
