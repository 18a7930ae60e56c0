import HomeCatalog.Proofs.Layout.Ink

/-!
# Endpoints without properties

A layout may leave out the endpoints that have no properties. It then writes what it would write of
a catalog that does not have them (`devicesText_brief`), whatever else the layout is: an endpoint
that is left out leaves no line, and a block is written only around lines. So a device looks as if
it had no endpoints, without a block of them, exactly if none of its endpoints has properties
(`defaults_left_out`).
-/

namespace HomeCatalog

/-- Nothing is configured of the endpoint. -/
def Endpoint.isDefault (e : Endpoint) : Bool :=
  e.properties.isEmpty

def Device.withoutDefaults (d : Device) : Device :=
  { d with endpoints := d.endpoints.filter (!·.isDefault) }

def Container.withoutDefaults (k : Container) : Container :=
  { k with children := k.children.map Device.withoutDefaults }

/-- The catalog without the default endpoints of its devices and of the children of its
containers. -/
def Catalog.withoutDefaults (c : Catalog) : Catalog :=
  { c with
    containers := c.containers.map Container.withoutDefaults
    devices := c.devices.map Device.withoutDefaults }

def DeviceEntry.withoutDefaults : DeviceEntry → DeviceEntry
  | .container k => .container k.withoutDefaults
  | .device d => .device d.withoutDefaults

/-- The device without any endpoints. -/
def Device.bare (d : Device) : Device :=
  { d with endpoints := [] }

namespace LayoutOptions

/-- The layout that leaves default endpoints out. -/
def brief (o : LayoutOptions) : LayoutOptions :=
  { o with includeDefaultEndpoints := false }

/-- The layout that writes all endpoints. -/
def full (o : LayoutOptions) : LayoutOptions :=
  { o with includeDefaultEndpoints := true }

end LayoutOptions

variable (o : LayoutOptions)

/-! ## Lines of endpoints -/

theorem Endpoint.render_brief (indent : Int) (e : Endpoint) :
    e.render o.brief indent = if e.isDefault then "" else e.render o.full indent := by
  unfold Endpoint.render Endpoint.isDefault
  cases e.properties.isEmpty <;> rfl

theorem endpointLines_brief (indent : Int) (es : List Endpoint) :
    (es.map (Endpoint.render o.brief indent)).filter (!·.isEmpty) =
      ((es.filter (!·.isDefault)).map (Endpoint.render o.full indent)).filter (!·.isEmpty) := by
  induction es with
  | nil => rfl
  | cons e es ih =>
    rw [List.map_cons, Endpoint.render_brief]
    cases h : e.isDefault with
    | true =>
      have hleft : (e :: es).filter (!·.isDefault) = es.filter (!·.isDefault) :=
        List.filter_cons_of_neg (by simp [h])
      rw [hleft, if_pos rfl, List.filter_cons_of_neg (by simp), ih]
    | false =>
      have hkept : (e :: es).filter (!·.isDefault) = e :: es.filter (!·.isDefault) :=
        List.filter_cons_of_pos (by simp [h])
      rw [hkept, if_neg Bool.false_ne_true, List.map_cons, List.filter_cons, List.filter_cons, ih]

theorem renderEndpoints_brief (indent : Int) (es : List Endpoint) :
    renderEndpoints o.brief indent es =
      renderEndpoints o.full indent (es.filter (!·.isDefault)) := by
  unfold renderEndpoints
  rw [endpointLines_brief]
  rfl

/-! ## Devices and containers -/

theorem Device.render_brief (indent : Int) (isChild : Bool) (d : Device) :
    d.render o.brief indent isChild = d.withoutDefaults.render o.full indent isChild := by
  unfold Device.render
  rw [renderEndpoints_brief]
  rfl

theorem Container.render_brief (k : Container) :
    k.render o.brief = k.withoutDefaults.render o.full := by
  have hchildren : renderChildren o.brief k.children =
      renderChildren o.full (k.children.map Device.withoutDefaults) := by
    unfold renderChildren
    rw [List.isEmpty_map, List.map_map,
      List.map_congr_left fun d _ => Device.render_brief o 2 true d]
    rfl
  unfold Container.render
  rw [hchildren]
  rfl

theorem DeviceEntry.render_brief (e : DeviceEntry) :
    e.render o.brief = e.withoutDefaults.render o.full := by
  cases e with
  | container k => exact k.render_brief o
  | device d => exact d.render_brief o 0 false

/-- The order depends on namespaces, so what keeps them may be done before or after sorting. -/
theorem mergeSort_map_of_key {α : Type} {f : α → α} {ns : α → String} (h : ∀ a, ns (f a) = ns a)
    (xs : List α) :
    ((xs.map f).mergeSort fun a b => textLE (ns a) (ns b)) =
      (xs.mergeSort fun a b => textLE (ns a) (ns b)).map f := by
  refine (List.map_mergeSort fun a _ b _ => ?_).symm
  rw [h, h]

theorem sortedDeviceEntries_withoutDefaults (c : Catalog) :
    sortedDeviceEntries c.withoutDefaults =
      (sortedDeviceEntries c).map DeviceEntry.withoutDefaults := by
  have hcontainer : ∀ k : Container, k.withoutDefaults.namespaceId = k.namespaceId := fun _ => rfl
  have hdevice : ∀ d : Device, d.withoutDefaults.namespaceId = d.namespaceId := fun _ => rfl
  simp only [sortedDeviceEntries, Catalog.withoutDefaults, mergeSort_map_of_key hcontainer,
    mergeSort_map_of_key hdevice, List.map_append, List.map_map]
  rfl

theorem devicesText_brief (c : Catalog) :
    devicesText o.brief c = devicesText o.full c.withoutDefaults := by
  rw [devicesText, devicesText, sortedDeviceEntries_withoutDefaults, List.map_map]
  exact congrArg String.join (List.map_congr_left fun e _ => e.render_brief o)

/-! ## Devices without a block -/

/-- What is written of a device before its endpoints. -/
def Device.heading (indent : Int) (isChild : Bool) (d : Device) : String :=
  pad indent ++ "Device " ++ d.header o isChild ++ labelled " " d.displayName ++
    labelled " @ " d.location ++
    spaced (renderProperties o.newline indent o.devicePropertiesInline d.properties)

theorem renderEndpoints_eq_empty_iff {indent : Int} {es : List Endpoint} :
    renderEndpoints o indent es = "" ↔ ∀ e ∈ es, e.render o (indent + 4) = "" := by
  have hlines : ((es.map (Endpoint.render o (indent + 4))).filter (!·.isEmpty)).isEmpty = true ↔
      ∀ e ∈ es, e.render o (indent + 4) = "" := by
    simp [List.isEmpty_iff, List.filter_eq_nil_iff]
  rw [← hlines]
  unfold renderEndpoints
  dsimp only
  split
  · next h => exact iff_of_true rfl h
  · next h => simp [h, String.append_eq_empty_iff]

theorem Device.render_bare (indent : Int) (isChild : Bool) (d : Device) :
    d.bare.render o indent isChild =
      d.heading o indent isChild ++ o.newline ++ (if isChild then "" else o.newline) := by
  have hnone : renderEndpoints o indent d.bare.endpoints = "" :=
    (renderEndpoints_eq_empty_iff o).2 (List.forall_mem_nil _)
  unfold Device.render
  rw [hnone, String.append_empty]
  rfl

theorem Device.render_eq_bare_iff (indent : Int) (isChild : Bool) (d : Device) :
    d.render o indent isChild = d.bare.render o indent isChild ↔
      renderEndpoints o indent d.endpoints = "" := by
  have hrender : d.render o indent isChild =
      d.heading o indent isChild ++ renderEndpoints o indent d.endpoints ++ o.newline ++
        (if isChild then "" else o.newline) := rfl
  -- the two texts begin with the heading and end alike, so what is between decides
  rw [Device.render_bare, hrender, ← String.toList_inj, ← String.toList_inj]
  simp only [String.toList_append, List.append_cancel_right_eq, List.append_right_eq_self]
  rfl

/-- To leave the default endpoints out is to write the catalog that does not have them. A device is
then written as one without endpoints, which has no block, exactly if all of its own are default
ones. -/
theorem defaults_left_out :
    (∀ c, devicesText o.brief c = devicesText o.full c.withoutDefaults) ∧
      ∀ (indent : Int) (isChild : Bool) (d : Device),
        d.bare.render o.brief indent isChild =
            d.heading o indent isChild ++ o.newline ++ (if isChild then "" else o.newline) ∧
          (d.render o.brief indent isChild = d.bare.render o.brief indent isChild ↔
            ∀ e ∈ d.endpoints, e.properties = []) := by
  refine ⟨devicesText_brief o, fun indent isChild d => ⟨d.render_bare o.brief indent isChild, ?_⟩⟩
  rw [Device.render_eq_bare_iff, renderEndpoints_eq_empty_iff]
  refine forall₂_congr fun e _ => ?_
  rw [Endpoint.render_eq_empty_iff, Bool.and_eq_true, List.isEmpty_iff]
  exact and_iff_left rfl

end HomeCatalog
