import HomeCatalog.Layout.Streams
import HomeCatalog.Proofs.Sorting
import Mathlib.Data.List.Lex
import Mathlib.Data.Prod.Lex
import Mathlib.Data.String.Basic

/-!
# The order of the streams

The streams list the containers, then the devices on their own, each by namespace, and the variables
by data type and name, where texts are compared code point by code point. What is equal in these
keeps its order, so the texts depend on nothing else: catalogs that have the same containers and
devices of each namespace and the same variables of each type and name, each in one order, are
written alike (`streams_in_order`).
-/

namespace HomeCatalog

/-! ## Keys -/

/-- The code points of a text. -/
def codePoints (s : String) : List Nat :=
  s.toList.map Char.toNat

theorem codePoints_strictMono : StrictMono codePoints := by
  intro s t h
  exact List.map_lt (fun _ _ hlt => hlt) (String.lt_iff_toList_lt.1 h)

theorem textLE_iff (s t : String) : textLE s t = true ↔ s ≤ t := by
  rw [textLE, Bool.not_eq_true', decide_eq_false_iff_not, not_lt]

/-- The key that variables are sorted by. -/
def Variable.sortKey (v : Variable) : String ×ₗ String :=
  toLex (v.dataType, v.name)

theorem variableLE_iff (v w : Variable) : variableLE v w = true ↔ v.sortKey ≤ w.sortKey := by
  rw [Variable.sortKey, Variable.sortKey, Prod.Lex.toLex_le_toLex, variableLE]
  by_cases h : v.dataType = w.dataType
  · rw [if_pos h, textLE_iff]
    simp [h]
  · rw [if_neg h, textLE_iff, le_iff_lt_or_eq]
    simp [h]

/-! ## Sorted streams -/

/-- Containers and devices in the order of the first stream. -/
structure DevicesInOrder (c : Catalog) (containers : List Container) (devices : List Device) :
    Prop where
  /-- All containers come first. -/
  listed : sortedDeviceEntries c = containers.map .container ++ devices.map .device
  containers_perm : containers.Perm c.containers
  devices_perm : devices.Perm c.devices
  containers_sorted : containers.Pairwise fun a b =>
    codePoints a.namespaceId ≤ codePoints b.namespaceId
  devices_sorted : devices.Pairwise fun a b => codePoints a.namespaceId ≤ codePoints b.namespaceId

/-- The variables of the second stream are in the order of their types, then of their names. -/
structure VariablesInOrder (c : Catalog) : Prop where
  perm : (sortedVariables c).Perm c.vars
  sorted : (sortedVariables c).Pairwise fun v w =>
    codePoints v.dataType < codePoints w.dataType ∨
      v.dataType = w.dataType ∧ codePoints v.name ≤ codePoints w.name

/-- For each namespace the same containers and the same devices, and for each type and name the same
variables, each in one order. -/
structure Catalog.SameShares (c c' : Catalog) : Prop where
  containers : ∀ ns, c.containers.filter (·.namespaceId == ns) =
    c'.containers.filter (·.namespaceId == ns)
  devices : ∀ ns, c.devices.filter (·.namespaceId == ns) = c'.devices.filter (·.namespaceId == ns)
  vars : ∀ type name, (c.vars.filter fun v => v.dataType == type && v.name == name) =
    c'.vars.filter fun v => v.dataType == type && v.name == name

theorem pairwise_mergeSort_namespace {α : Type} (ns : α → String) (xs : List α) :
    (xs.mergeSort fun a b => textLE (ns a) (ns b)).Pairwise fun a b =>
      codePoints (ns a) ≤ codePoints (ns b) :=
  (pairwise_key_mergeSort (fun a b => textLE_iff (ns a) (ns b)) xs).imp
    codePoints_strictMono.le_iff_le.2

theorem devicesInOrder (c : Catalog) : ∃ containers devices, DevicesInOrder c containers devices :=
  ⟨_, _, rfl, List.mergeSort_perm _ _, List.mergeSort_perm _ _,
    pairwise_mergeSort_namespace Container.namespaceId _,
    pairwise_mergeSort_namespace Device.namespaceId _⟩

theorem variablesInOrder (c : Catalog) : VariablesInOrder c where
  perm := List.mergeSort_perm _ _
  sorted := by
    refine (pairwise_key_mergeSort variableLE_iff c.vars).imp fun {v w} h => ?_
    rw [codePoints_strictMono.lt_iff_lt, codePoints_strictMono.le_iff_le]
    exact Prod.Lex.toLex_le_toLex.1 h

namespace Catalog.SameShares

variable {c c' : Catalog} (h : c.SameShares c')

include h

theorem sortedDeviceEntries_eq : sortedDeviceEntries c = sortedDeviceEntries c' := by
  have hcontainers := mergeSort_congr_of_filter_key_eq
    (fun a b => textLE_iff (Container.namespaceId a) (Container.namespaceId b)) h.containers
  have hdevices := mergeSort_congr_of_filter_key_eq
    (fun a b => textLE_iff (Device.namespaceId a) (Device.namespaceId b)) h.devices
  rw [sortedDeviceEntries, sortedDeviceEntries, hcontainers, hdevices]

theorem sortedVariables_eq : sortedVariables c = sortedVariables c' := by
  refine mergeSort_congr_of_filter_key_eq variableLE_iff fun k => ?_
  have hshare := h.vars (ofLex k).1 (ofLex k).2
  have hkey : ∀ v : Variable, decide (v.sortKey = k) =
      (v.dataType == (ofLex k).1 && v.name == (ofLex k).2) := by
    intro v
    rw [Bool.eq_iff_iff, decide_eq_true_iff, Bool.and_eq_true, beq_iff_eq, beq_iff_eq]
    exact Prod.ext_iff
  simp only [hkey]
  exact hshare

end Catalog.SameShares

/-- The streams are in order, and catalogs with the same shares are written alike. -/
theorem streams_in_order :
    (∀ c, (∃ containers devices, DevicesInOrder c containers devices) ∧ VariablesInOrder c) ∧
      ∀ c c', c.SameShares c' → ∀ o,
        devicesText o c = devicesText o c' ∧ variablesText o c = variablesText o c' := by
  refine ⟨fun c => ⟨devicesInOrder c, variablesInOrder c⟩, fun c c' h o => ⟨?_, ?_⟩⟩
  · rw [devicesText, devicesText, h.sortedDeviceEntries_eq]
  · rw [variablesText, variablesText, h.sortedVariables_eq]

/-- Two containers of one namespace with one of another between them, and two variables of one type
and name before a third. -/
def hubBetweenBridges : Catalog where
  containers := [
    { namespaceId := "hue", typeId := "bridge", containerId := "b2" },
    { namespaceId := "acme", typeId := "hub", containerId := "h" },
    { namespaceId := "hue", typeId := "bridge", containerId := "b1" }]
  vars := [
    { dataType := "Switch", name := "Light", displayName := some "On" },
    { dataType := "Switch", name := "Light", displayName := some "Off" },
    { dataType := "Dimmer", name := "Light" }]

/-- The same, the odd one of each three in another place. -/
def hubAfterBridges : Catalog where
  containers := [
    { namespaceId := "hue", typeId := "bridge", containerId := "b2" },
    { namespaceId := "hue", typeId := "bridge", containerId := "b1" },
    { namespaceId := "acme", typeId := "hub", containerId := "h" }]
  vars := [
    { dataType := "Switch", name := "Light", displayName := some "On" },
    { dataType := "Dimmer", name := "Light" },
    { dataType := "Switch", name := "Light", displayName := some "Off" }]

/-- Where the odd one stands does not matter. -/
theorem streams_in_order_of_hubs :
    hubBetweenBridges.SameShares hubAfterBridges ∧
      devicesText {} hubBetweenBridges = devicesText {} hubAfterBridges ∧
      variablesText {} hubBetweenBridges = variablesText {} hubAfterBridges := by
  have h : hubBetweenBridges.SameShares hubAfterBridges := by
    refine ⟨fun ns => ?_, fun ns => rfl, fun type name => ?_⟩
    · by_cases hns : "acme" = ns
      · subst hns
        decide
      · simp [hubBetweenBridges, hubAfterBridges, List.filter_cons, hns]
    · by_cases htype : "Dimmer" = type
      · subst htype
        simp [hubBetweenBridges, hubAfterBridges, List.filter_cons]
      · simp [hubBetweenBridges, hubAfterBridges, List.filter_cons, htype]
  exact ⟨h, streams_in_order.2 _ _ h {}⟩

end HomeCatalog
