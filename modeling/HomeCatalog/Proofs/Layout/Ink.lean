import HomeCatalog.Layout.Streams

/-!
# What the layout leaves alone

The ink of a text is what is left of it when every space and every line end is deleted. The switches
of a layout decide where a list breaks into lines and how far its lines are indented, and the ink of
both streams is the same whatever they decide (`ink_streams_eq`), names and values of any
characters included.

A list on one line and a list on lines of its own have one ink (`ink_bracketed`): brackets, and the
ink of the items with commas between them. Everything else goes along the tree of entities. The
block of a device's endpoints is the one place where a layout looks at a text that it has laid out:
it is left out if no line comes of them. Whether a line comes of an endpoint does not depend on the
switches either (`Endpoint.render_eq_empty_iff`).
-/

namespace HomeCatalog

/-! ## Ink -/

/-- A space, a carriage return or a line feed. -/
def isLayoutChar (c : Char) : Bool :=
  c == ' ' || c == '\r' || c == '\n'

/-- A text without its spaces and line ends. -/
def ink (s : String) : List Char :=
  s.toList.filter fun c => !isLayoutChar c

@[simp] theorem ink_empty : ink "" = [] := rfl

@[simp] theorem ink_append (s t : String) : ink (s ++ t) = ink s ++ ink t := by
  rw [ink, String.toList_append, List.filter_append]
  rfl

@[simp] theorem ink_pad (indent : Int) : ink (pad indent) = [] := by
  rw [ink, pad, String.toList_ofList, List.filter_eq_nil_iff]
  intro c hc
  rw [List.eq_of_mem_replicate hc]
  decide

@[simp] theorem ink_spaced (s : String) : ink (spaced s) = ink s := by
  unfold spaced
  split
  · next h => rw [String.isEmpty_iff.1 h]
  · rw [ink_append]
    rfl

theorem ink_join (ss : List String) : ink (String.join ss) = ss.flatMap ink := by
  rw [ink, String.toList_join, List.filter_flatMap]
  rfl

theorem ink_join_map_congr {α : Type} {f g : α → String} {xs : List α}
    (h : ∀ x ∈ xs, ink (f x) = ink (g x)) :
    ink (String.join (xs.map f)) = ink (String.join (xs.map g)) := by
  rw [ink_join, ink_join, List.flatMap_map, List.flatMap_map]
  induction xs with
  | nil => rfl
  | cons x xs ih =>
    rw [List.flatMap_cons, List.flatMap_cons, h x List.mem_cons_self,
      ih fun y hy => h y (List.mem_cons_of_mem _ hy)]

/-- Lines without ink may be left out. -/
theorem ink_join_filter (ss : List String) :
    ink (String.join (ss.filter (!·.isEmpty))) = ink (String.join ss) := by
  rw [ink_join, ink_join]
  induction ss with
  | nil => rfl
  | cons s ss ih =>
    cases h : s.isEmpty with
    | true =>
      rw [List.filter_cons_of_neg (by simp [h]), ih, List.flatMap_cons, String.isEmpty_iff.1 h,
        ink_empty, List.nil_append]
    | false => rw [List.filter_cons_of_pos (by simp [h]), List.flatMap_cons, List.flatMap_cons, ih]

/-! ## Lists -/

/-- The ink of items with something between each two of them. -/
theorem ink_intercalate (s : String) (items : List String) :
    ink (s.intercalate items) = (ink s).intercalate (items.map ink) := by
  induction items with
  | nil => rfl
  | cons a items ih =>
    cases items with
    | nil => simp
    | cons b items =>
      rw [String.intercalate_cons_cons, ink_append, ink_append, ih]
      simp only [List.map_cons, List.intercalate_cons_cons]

/-- The end of a line, one character or two. -/
def IsLineEnd (s : String) : Prop :=
  s = "\r\n" ∨ s = "\n"

theorem ink_of_isLineEnd {s : String} (h : IsLineEnd s) : ink s = [] := by
  rcases h with rfl | rfl <;> decide

theorem ink_commaLines {newline margin : String} (hnewline : ink newline = [])
    (hmargin : ink margin = []) (items : List String) :
    ink (commaLines newline margin items) = [','].intercalate (items.map ink) := by
  induction items with
  | nil => rfl
  | cons a items ih =>
    cases items with
    | nil => simp [commaLines, hmargin]
    | cons b items =>
      have hcomma : ink "," = [','] := by decide
      simp only [commaLines, ink_append, ih, hnewline, hmargin, hcomma, List.map_cons,
        List.intercalate_cons_cons, List.append_nil, List.nil_append]

/-- A list has one ink, on one line and on many. -/
theorem ink_bracketed {newline : String} (hnewline : ink newline = []) (opening closing : String)
    (indent : Int) (inline : Bool) (items : List String) :
    ink (bracketed opening closing newline indent inline items) =
      if items.isEmpty then [] else
        ink opening ++ [','].intercalate (items.map ink) ++ ink closing := by
  have hcomma : ink ", " = [','] := by decide
  have hspace : ink " " = [] := by decide
  unfold bracketed
  cases items.isEmpty with
  | true => rfl
  | false =>
    cases inline with
    | true => simp [ink_intercalate, hcomma, hspace]
    | false => simp [ink_commaLines hnewline (ink_pad _), hnewline]

/-! ## Entities -/

/-- The two layouts write the same: they end lines, they leave out the same endpoints, and they give
each namespace the same fixed type id or none. The switches may differ. -/
structure SameContent (o o' : LayoutOptions) : Prop where
  newline : IsLineEnd o.newline ∧ IsLineEnd o'.newline
  endpoints : o.includeDefaultEndpoints = o'.includeDefaultEndpoints
  vendorTypes : ∀ namespaceId,
    pairValue? o.vendorTypes namespaceId = pairValue? o'.vendorTypes namespaceId

/-- An endpoint that is written is written as something. -/
theorem Endpoint.render_eq_empty_iff {o : LayoutOptions} {indent : Int} {e : Endpoint} :
    e.render o indent = "" ↔ (e.properties.isEmpty && !o.includeDefaultEndpoints) = true := by
  unfold Endpoint.render
  split
  · next h => exact iff_of_true rfl h
  · next h => simp [h, String.append_eq_empty_iff]

section SameContent

variable {o o' : LayoutOptions} (h : SameContent o o')

include h

theorem ink_renderProperties_eq (indent indent' : Int) (inline inline' : Bool) (vs : ValueList) :
    ink (renderProperties o.newline indent inline vs) =
      ink (renderProperties o'.newline indent' inline' vs) := by
  unfold renderProperties
  rw [ink_bracketed (ink_of_isLineEnd h.newline.1), ink_bracketed (ink_of_isLineEnd h.newline.2)]

theorem Endpoint.ink_render_eq (indent : Int) (e : Endpoint) :
    ink (e.render o indent) = ink (e.render o' indent) := by
  unfold Endpoint.render
  rw [h.endpoints]
  split
  · rfl
  · simp only [ink_append, ink_pad, ink_spaced, ink_of_isLineEnd h.newline.1,
      ink_of_isLineEnd h.newline.2]
    rw [ink_renderProperties_eq h indent indent o.endpointPropertiesInline
      o'.endpointPropertiesInline]

theorem ink_renderEndpoints_eq (indent : Int) (es : List Endpoint) :
    ink (renderEndpoints o indent es) = ink (renderEndpoints o' indent es) := by
  have hlines : ∀ e ∈ es, ink (e.render o (indent + 4)) = ink (e.render o' (indent + 4)) :=
    fun e _ => e.ink_render_eq h (indent + 4)
  have hnone : ((es.map (Endpoint.render o (indent + 4))).filter (!·.isEmpty)).isEmpty =
      ((es.map (Endpoint.render o' (indent + 4))).filter (!·.isEmpty)).isEmpty := by
    rw [Bool.eq_iff_iff]
    simp only [List.isEmpty_iff, List.filter_eq_nil_iff, List.forall_mem_map, Bool.not_eq_true,
      Bool.not_eq_false', String.isEmpty_iff, Endpoint.render_eq_empty_iff, h.endpoints]
  unfold renderEndpoints
  dsimp only
  rw [hnone]
  split
  · rfl
  · simp only [ink_append, ink_pad, ink_join_filter, ink_join_map_congr hlines,
      ink_of_isLineEnd h.newline.1, ink_of_isLineEnd h.newline.2]

theorem Device.header_eq (isChild : Bool) (d : Device) :
    d.header o isChild = d.header o' isChild := by
  unfold Device.header LayoutOptions.typeIdFor
  rw [h.vendorTypes]

theorem Device.ink_render_eq (indent : Int) (isChild : Bool) (d : Device) :
    ink (d.render o indent isChild) = ink (d.render o' indent isChild) := by
  unfold Device.render
  have hend : ink (if isChild = true then "" else o.newline) =
      ink (if isChild = true then "" else o'.newline) := by
    cases isChild with
    | true => rfl
    | false => exact (ink_of_isLineEnd h.newline.1).trans (ink_of_isLineEnd h.newline.2).symm
  simp only [ink_append, ink_pad, ink_spaced, hend, d.header_eq h isChild,
    ink_renderEndpoints_eq h indent, ink_of_isLineEnd h.newline.1, ink_of_isLineEnd h.newline.2]
  rw [ink_renderProperties_eq h indent indent o.devicePropertiesInline o'.devicePropertiesInline]

theorem ink_renderChildren_eq (ds : List Device) :
    ink (renderChildren o ds) = ink (renderChildren o' ds) := by
  have hchildren : ∀ d ∈ ds, ink (d.render o 2 true) = ink (d.render o' 2 true) :=
    fun d _ => d.ink_render_eq h 2 true
  unfold renderChildren
  split
  · rfl
  · simp only [ink_append, ink_join_map_congr hchildren, ink_of_isLineEnd h.newline.1,
      ink_of_isLineEnd h.newline.2]

theorem Container.ink_render_eq (c : Container) : ink (c.render o) = ink (c.render o') := by
  unfold Container.render
  simp only [ink_append, ink_spaced, ink_renderChildren_eq h, ink_of_isLineEnd h.newline.1,
    ink_of_isLineEnd h.newline.2]
  rw [ink_renderProperties_eq h 0 0 o.containerPropertiesInline o'.containerPropertiesInline]

theorem Entry.ink_render_eq (indent indent' : Int) (inline inline' : Bool) (e : Entry) :
    ink (e.render o.newline indent inline) = ink (e.render o'.newline indent' inline') := by
  cases e with
  | link l =>
    simp only [Entry.render, Link.render, ink_append, ink_spaced]
    rw [ink_renderProperties_eq h indent indent' inline inline']
  | note a =>
    simp only [Entry.render, Note.render, ink_append, ink_spaced]
    rw [ink_renderProperties_eq h indent indent' inline inline']

theorem ink_entries_eq (es : List Entry) :
    ink (bracketed "\x7b" "\x7d" o.newline 0 o.variableEntriesInline
        (es.map (Entry.render o.newline 2 o.variableEntriesInline))) =
      ink (bracketed "\x7b" "\x7d" o'.newline 0 o'.variableEntriesInline
        (es.map (Entry.render o'.newline 2 o'.variableEntriesInline))) := by
  have hentries : (es.map (Entry.render o.newline 2 o.variableEntriesInline)).map ink =
      (es.map (Entry.render o'.newline 2 o'.variableEntriesInline)).map ink := by
    rw [List.map_map, List.map_map]
    exact List.map_congr_left fun e _ => e.ink_render_eq h 2 2 _ _
  rw [ink_bracketed (ink_of_isLineEnd h.newline.1), ink_bracketed (ink_of_isLineEnd h.newline.2),
    hentries, List.isEmpty_map, List.isEmpty_map]

theorem Variable.ink_render_eq (v : Variable) : ink (v.render o) = ink (v.render o') := by
  unfold Variable.render
  simp only [ink_append, ink_spaced, ink_entries_eq h, ink_of_isLineEnd h.newline.1,
    ink_of_isLineEnd h.newline.2]

theorem DeviceEntry.ink_render_eq (e : DeviceEntry) : ink (e.render o) = ink (e.render o') := by
  cases e with
  | container c => exact c.ink_render_eq h
  | device d => exact d.ink_render_eq h 0 false

end SameContent

/-! ## Streams -/

/-- Two layouts that write the same differ in spaces and line ends at most. -/
theorem ink_streams_eq (c : Catalog) {o o' : LayoutOptions} (h : SameContent o o') :
    ink (devicesText o c) = ink (devicesText o' c) ∧
      ink (variablesText o c) = ink (variablesText o' c) := by
  constructor
  · exact ink_join_map_congr fun e _ => e.ink_render_eq h
  · have hvars : ((sortedVariables c).map (Variable.render o)).map ink =
        ((sortedVariables c).map (Variable.render o')).map ink := by
      rw [List.map_map, List.map_map]
      exact List.map_congr_left fun v _ => v.ink_render_eq h
    rw [variablesText, variablesText, ink_intercalate, ink_intercalate, hvars,
      ink_of_isLineEnd h.newline.1, ink_of_isLineEnd h.newline.2]

/-- Every switch turned over and the other line end, for a device whose label has spaces and whose
values hold a comma, a bracket and a line end of their own. -/
theorem ink_streams_of_turned_switches :
    SameContent {}
        { containerPropertiesInline := true, devicePropertiesInline := true,
          endpointPropertiesInline := false, variableEntriesInline := true, newline := "\n" } ∧
      ∃ c : Catalog,
        c.devices = [{
          namespaceId := "shelly", typeId := "shelly1", deviceId := "d1"
          displayName := some "Hall  lamp"
          properties := [{ name := "a", raw := "x, ]" }, { name := "b", raw := "1\r\n2" }]
          endpoints := [{ kind := "STATE", id := "power" },
            { kind := "STATE", id := "lux", properties := [{ name := "c", raw := " " }] }] }] ∧
        ink (devicesText {} c) = ink (devicesText
          { containerPropertiesInline := true, devicePropertiesInline := true,
            endpointPropertiesInline := false, variableEntriesInline := true, newline := "\n" } c) ∧
        ink (variablesText {} c) = ink (variablesText
          { containerPropertiesInline := true, devicePropertiesInline := true,
            endpointPropertiesInline := false, variableEntriesInline := true,
            newline := "\n" } c) := by
  have hsame : SameContent {}
      { containerPropertiesInline := true, devicePropertiesInline := true,
        endpointPropertiesInline := false, variableEntriesInline := true, newline := "\n" } :=
    ⟨⟨.inl rfl, .inr rfl⟩, rfl, fun _ => rfl⟩
  exact ⟨hsame, { devices := _ }, rfl, ink_streams_eq _ hsame⟩

end HomeCatalog
