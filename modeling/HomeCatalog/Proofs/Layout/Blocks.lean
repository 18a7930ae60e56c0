import HomeCatalog.Proofs.Layout.Ink
import HomeCatalog.Proofs.Text.Blocks
import HomeCatalog.Proofs.Traversal

/-!
# Entries as blocks

Empty lines stand between the entries of a stream and nowhere else, as long as no text of the
catalog has a line end of its own. The stream of devices has one empty line after each entry, and
the stream of variables one between each two. `streams_in_blocks` says so of every catalog and all
switches: cut at its empty lines, a stream falls into the lines of its entries, in their order.

A line is never left empty because something stands on it before it is ended. A part of an entry is
a text that flows (`Flows`): it goes on where the line stands and leaves nothing empty behind it.
Texts that flow may follow one another, and an entry is such a text after a word of its own
(`Fills`).

Fixed type ids come from the layout and not from the catalog. One that holds an empty line cuts the
entry of its device in two (`type_in_two_blocks`).
-/

namespace HomeCatalog

open Text

/-! ## The texts of a catalog -/

/-- The texts of values. -/
def valueTexts (vs : ValueList) : List String :=
  vs.flatMap fun v => [v.name, v.raw]

/-- The texts of an endpoint. -/
def Endpoint.texts (e : Endpoint) : List String :=
  e.kind :: e.id :: e.dataType.toList ++ e.displayName.toList ++ valueTexts e.properties

/-- The texts of a device. -/
def Device.texts (d : Device) : List String :=
  d.namespaceId :: d.typeId :: d.deviceId :: d.containerId.toList ++ d.displayName.toList ++
    d.location.toList ++ valueTexts d.properties ++ d.endpoints.flatMap Endpoint.texts

/-- The texts of a container. -/
def Container.texts (c : Container) : List String :=
  c.namespaceId :: c.typeId :: c.containerId :: c.displayName.toList ++ c.location.toList ++
    valueTexts c.properties ++ c.children.flatMap Device.texts

/-- The texts of what is attached to a variable. -/
def Entry.texts : Entry → List String
  | .link l => l.name :: l.endpointId :: l.variableName :: valueTexts l.properties
  | .note a => a.name :: a.namespaceId :: a.value :: a.variableName :: valueTexts a.properties

/-- The texts of a variable. -/
def Variable.texts (v : Variable) : List String :=
  v.dataType :: v.name :: v.displayName.toList ++ v.category.toList ++ v.iconName.toList ++
    v.groups ++ v.tags ++ v.baseType.toList ++ v.function.toList ++ v.parameters ++
    v.entries.flatMap Entry.texts

/-- The texts of a catalog. -/
def Catalog.texts (c : Catalog) : List String :=
  c.containers.flatMap Container.texts ++ c.devices.flatMap Device.texts ++
    c.vars.flatMap Variable.texts

/-- Texts on one line, all of them. -/
def OneLines (ss : List String) : Prop :=
  ∀ s ∈ ss, OneLine s

instance (ss : List String) : Decidable (OneLines ss) :=
  List.decidableBAll OneLine ss

@[simp] theorem oneLines_nil : OneLines [] := by
  simp [OneLines]

@[simp] theorem oneLines_cons {s : String} {ss : List String} :
    OneLines (s :: ss) ↔ OneLine s ∧ OneLines ss :=
  List.forall_mem_cons

@[simp] theorem oneLines_append {ss ss' : List String} :
    OneLines (ss ++ ss') ↔ OneLines ss ∧ OneLines ss' :=
  List.forall_mem_append

@[simp] theorem oneLines_flatMap {α : Type} {f : α → List String} {xs : List α} :
    OneLines (xs.flatMap f) ↔ ∀ x ∈ xs, OneLines (f x) :=
  ⟨fun h x hx s hs => h s (List.mem_flatMap.2 ⟨x, hx, hs⟩), fun h s hs =>
    let ⟨x, hx, hs⟩ := List.mem_flatMap.1 hs
    h x hx s hs⟩

/-! ## Texts that flow -/

/-- Nothing is left empty by a text that goes on where the line stands: its first line may be empty,
and none of the others is. -/
inductive Flows (newline : String) : String → Prop
  | line {s : String} : OneLine s → Flows newline s
  | next {s l : String} : Flows newline s → OneLine l → l ≠ "" → Flows newline (s ++ newline ++ l)

/-- A text that flows after something on its first line. -/
def Fills (newline s : String) : Prop :=
  ∃ a t, OneLine a ∧ a ≠ "" ∧ Flows newline t ∧ s = a ++ t

/-- Whole lines, none of them empty. -/
def WholeLines (newline s : String) : Prop :=
  ∃ ls, OneLines ls ∧ "" ∉ ls ∧ s = ended newline ls

section Flows

variable {newline s t : String}

theorem Flows.append (hs : Flows newline s) (ht : Flows newline t) : Flows newline (s ++ t) := by
  -- The first line of the second text goes on with the last of the first text, empty or not.
  induction ht with
  | @line t ht =>
    cases hs with
    | line hs => exact .line (oneLine_append.2 ⟨hs, ht⟩)
    | @next s l hs hl hne =>
      have hnext : Flows newline (s ++ newline ++ (l ++ t)) :=
        .next hs (oneLine_append.2 ⟨hl, ht⟩) (by simp [String.append_eq_empty_iff, hne])
      simpa only [String.append_assoc] using hnext
  | @next t l _ hl hne ih =>
    rw [← String.append_assoc, ← String.append_assoc]
    exact .next ih hl hne

theorem Flows.append_line (hs : Flows newline s) (ht : OneLine t) : Flows newline (s ++ t) :=
  hs.append (.line ht)

theorem Fills.flows (h : Fills newline s) : Flows newline s := by
  obtain ⟨a, t, ha, -, ht, rfl⟩ := h
  exact (Flows.line ha).append ht

theorem Fills.of_append (hs : OneLine s) (hne : s ≠ "") (ht : Flows newline t) :
    Fills newline (s ++ t) :=
  ⟨s, t, hs, hne, ht, rfl⟩

theorem Fills.of_oneLine (hs : OneLine s) (hne : s ≠ "") : Fills newline s :=
  ⟨s, "", hs, hne, .line oneLine_empty, String.append_empty.symm⟩

theorem Fills.append (hs : Fills newline s) (ht : Flows newline t) : Fills newline (s ++ t) := by
  obtain ⟨a, u, ha, hne, hu, rfl⟩ := hs
  exact ⟨a, u ++ t, ha, hne, hu.append ht, String.append_assoc ..⟩

theorem Fills.prepend (ht : OneLine t) (hs : Fills newline s) : Fills newline (t ++ s) := by
  obtain ⟨a, u, ha, hne, hu, rfl⟩ := hs
  exact ⟨t ++ a, u, oneLine_append.2 ⟨ht, ha⟩, by simp [String.append_eq_empty_iff, hne], hu,
    (String.append_assoc ..).symm⟩

/-- What fills its line may stand on the next one. -/
theorem Flows.next_fills (hs : Flows newline s) (ht : Fills newline t) :
    Flows newline (s ++ newline ++ t) := by
  obtain ⟨a, u, ha, hne, hu, rfl⟩ := ht
  rw [← String.append_assoc]
  exact (Flows.next hs ha hne).append hu

/-- Whole lines may stand below one that is ended, if something stands below them. -/
theorem Flows.next_wholeLines (hs : Flows newline s) (ht : WholeLines newline t) {l : String}
    (hl : OneLine l) (hne : l ≠ "") : Flows newline (s ++ newline ++ t ++ l) := by
  obtain ⟨ls, hls, hnone, rfl⟩ := ht
  -- A line is moved to what stands above it as soon as it is known not to be empty.
  induction ls generalizing s with
  | nil => simpa using Flows.next hs hl hne
  | cons a ls ih =>
    obtain ⟨ha, hls⟩ := oneLines_cons.1 hls
    obtain ⟨hempty, hnone⟩ : "" ≠ a ∧ "" ∉ ls := by simpa using hnone
    have hnext := ih (.next hs ha hempty.symm) hls hnone
    simpa only [ended_cons, String.append_assoc] using hnext

theorem flows_intercalate (separator : String) (hseparator : OneLine separator)
    {items : List String} (h : ∀ i ∈ items, Flows newline i) :
    Flows newline (separator.intercalate items) := by
  induction items with
  | nil => exact .line oneLine_empty
  | cons a items ih =>
    obtain ⟨ha, hitems⟩ := List.forall_mem_cons.1 h
    cases items with
    | nil => simpa using ha
    | cons b items =>
      rw [String.intercalate_cons_cons]
      exact (ha.append_line hseparator).append (ih hitems)

/-- A text that fills its line is the lines of a block once it is ended. -/
theorem Fills.exists_block (h : Fills newline s) :
    ∃ b, IsBlock b ∧ s ++ newline = ended newline b := by
  obtain ⟨a, t, ha, hne, ht, rfl⟩ := h
  induction ht with
  | @line t ht =>
    refine ⟨[a ++ t], ⟨List.cons_ne_nil _ _, ?_, ?_⟩, by simp⟩
    · simp [String.append_eq_empty_iff, hne]
    · simpa using ⟨ha, ht⟩
  | @next t l _ hl hl' ih =>
    obtain ⟨b, hb, htext⟩ := ih
    refine ⟨b ++ [l], ⟨by simp, ?_, ?_⟩, ?_⟩
    · simpa [or_imp, forall_and] using ⟨hb.ne_empty, hl'⟩
    · simpa [or_imp, forall_and] using ⟨hb.oneLine, hl⟩
    · rw [ended_append, ← htext]
      simp [String.append_assoc]

/-! ## Whole lines -/

theorem wholeLines_empty : WholeLines newline "" :=
  ⟨[], oneLines_nil, List.not_mem_nil, rfl⟩

theorem WholeLines.append (hs : WholeLines newline s) (ht : WholeLines newline t) :
    WholeLines newline (s ++ t) := by
  obtain ⟨ls, hls, hnone, rfl⟩ := hs
  obtain ⟨ls', hls', hnone', rfl⟩ := ht
  refine ⟨ls ++ ls', oneLines_append.2 ⟨hls, hls'⟩, ?_, (ended_append ..).symm⟩
  rw [List.mem_append]
  rintro (h | h)
  · exact hnone h
  · exact hnone' h

theorem Fills.wholeLines (h : Fills newline s) : WholeLines newline (s ++ newline) := by
  obtain ⟨b, hb, htext⟩ := h.exists_block
  exact ⟨b, hb.oneLine, hb.not_mem, htext⟩

theorem wholeLines_join {ss : List String} (h : ∀ s ∈ ss, WholeLines newline s) :
    WholeLines newline (String.join ss) := by
  induction ss with
  | nil => exact wholeLines_empty
  | cons a ss ih =>
    obtain ⟨ha, hss⟩ := List.forall_mem_cons.1 h
    rw [String.join_cons]
    exact ha.append (ih hss)

end Flows

/-! ## Lists and quoted texts -/

theorem oneLine_pad (indent : Int) : OneLine (pad indent) := by
  intro c hc
  rw [pad, String.toList_ofList] at hc
  rw [List.eq_of_mem_replicate hc]
  decide

theorem oneLine_quote {s : String} (h : OneLine s) : OneLine (quote s) := by
  intro c hc
  rw [quote, String.toList_ofList] at hc
  simp only [List.cons_append, List.mem_cons, List.mem_append, List.mem_flatMap, List.not_mem_nil,
    or_false] at hc
  rcases hc with rfl | ⟨x, hx, hc⟩ | rfl
  · decide
  · unfold quotedChar at hc
    split at hc
    · rcases List.mem_cons.1 hc with rfl | hc
      · decide
      · rw [List.mem_singleton.1 hc]
        exact h x hx
    · rw [List.mem_singleton.1 hc]
      exact h x hx
  · decide

theorem oneLine_of_given {s : Option String} {t : String} (h : OneLines s.toList)
    (ht : given s = some t) : OneLine t := by
  have hs : s = some t := (Option.filter_eq_some_iff.1 ht).1
  exact h t (by simp [hs])

theorem oneLine_labelled (lead : String) {s : Option String} (hlead : OneLine lead)
    (h : OneLines s.toList) : OneLine (labelled lead s) := by
  unfold labelled
  split
  · next ht => exact oneLine_append.2 ⟨hlead, oneLine_quote (oneLine_of_given h ht)⟩
  · exact oneLine_empty

variable {newline : String}

theorem flows_spaced {s : String} (h : Flows newline s) : Flows newline (spaced s) := by
  unfold spaced
  split
  · exact .line oneLine_empty
  · exact (Flows.line (by decide)).append h

theorem flows_commaLines {margin s : String} (hmargin : OneLine margin) {items : List String}
    (hne : items ≠ []) (hs : Flows newline s) (h : ∀ i ∈ items, Fills newline i) :
    Flows newline (s ++ newline ++ commaLines newline margin items) := by
  induction items generalizing s with
  | nil => exact absurd rfl hne
  | cons a items ih =>
    obtain ⟨ha, hitems⟩ := List.forall_mem_cons.1 h
    have hnext := hs.next_fills (ha.prepend hmargin)
    cases items with
    | nil => exact hnext
    | cons b items =>
      have hrest := ih (List.cons_ne_nil _ _) (hnext.append_line (t := ",") (by decide)) hitems
      simpa only [commaLines, String.append_assoc] using hrest

theorem flows_bracketed {opening closing : String} (hopening : OneLine opening)
    (hclosing : OneLine closing) (hne : closing ≠ "") (indent : Int) (inline : Bool)
    {items : List String} (h : ∀ i ∈ items, Fills newline i) :
    Flows newline (bracketed opening closing newline indent inline items) := by
  unfold bracketed
  split
  · exact .line oneLine_empty
  · next hitems =>
    split
    · have hinner := flows_intercalate ", " (by decide) fun i hi => (h i hi).flows
      exact ((((Flows.line hopening).append_line (by decide)).append hinner).append_line
        (by decide)).append_line hclosing
    · have hinner := flows_commaLines (oneLine_pad (indent + 2))
        (by simpa using hitems) (.line hopening) h
      have hend : Fills newline (pad indent ++ closing) :=
        (Fills.of_oneLine hclosing hne).prepend (oneLine_pad indent)
      simpa only [String.append_assoc] using hinner.next_fills hend

/-! ## Values -/

theorem oneLine_literal {metadata : Bool} {s : String} (h : OneLine s) :
    OneLine (literal metadata s) := by
  unfold literal
  split
  · exact oneLine_append.2 ⟨oneLine_append.2 ⟨by decide, h⟩, by decide⟩
  · exact h

theorem Value.oneLine_render {v : Value} (h : OneLine v.raw) : OneLine v.render := by
  unfold Value.render
  split
  · exact h.strip
  · split
    · next hs => exact oneLine_literal (oneLine_normalized h hs)
    · exact oneLine_empty
  · exact oneLine_literal h.strip.lower
  · exact oneLine_quote h
  · exact h

theorem Value.fills_assignment {v : Value} (hname : OneLine v.name) (hraw : OneLine v.raw) :
    Fills newline v.assignment := by
  refine .of_oneLine ?_ (by simp [Value.assignment, String.append_eq_empty_iff])
  exact oneLine_append.2 ⟨oneLine_append.2 ⟨hname, by decide⟩, v.oneLine_render hraw⟩

theorem flows_renderProperties {vs : ValueList} (h : OneLines (valueTexts vs)) (indent : Int)
    (inline : Bool) : Flows newline (renderProperties newline indent inline vs) := by
  refine flows_bracketed (by decide) (by decide) (by decide) indent inline ?_
  rw [List.forall_mem_map]
  intro v hv
  have hv := oneLines_flatMap.1 h v hv
  simp only [oneLines_cons, oneLines_nil, and_true] at hv
  exact v.fills_assignment hv.1 hv.2

/-! ## Devices -/

theorem Endpoint.oneLine_displayKind {e : Endpoint} (h : OneLine e.kind) :
    OneLine e.displayKind := by
  unfold Endpoint.displayKind
  split
  · exact oneLine_empty
  · next c cs hkind =>
    rw [OneLine, hkind, List.forall_mem_cons] at h
    refine oneLine_append.2 ⟨OneLine.upper ?_, OneLine.lower ?_⟩
    · simpa [OneLine] using h.1
    · simpa [OneLine] using h.2

theorem Endpoint.oneLine_declaredType {e : Endpoint} (h : OneLines e.dataType.toList) :
    OneLine e.declaredType := by
  unfold Endpoint.declaredType
  split
  · decide
  · cases htype : given e.dataType with
    | none => exact (by decide : OneLine "String")
    | some t => exact oneLine_of_given h htype

theorem Endpoint.wholeLines_render {o : LayoutOptions} {e : Endpoint} (h : OneLines e.texts)
    (indent : Int) : WholeLines o.newline (e.render o indent) := by
  simp only [Endpoint.texts, List.cons_append, oneLines_cons, oneLines_append] at h
  obtain ⟨hkind, hid, ⟨htype, hlabel⟩, hproperties⟩ := h
  unfold Endpoint.render
  split
  · exact wholeLines_empty
  · have hdeclared : OneLine (e.displayKind ++ " " ++ e.declaredType ++ " : " ++ e.id) := by
      simp only [oneLine_append]
      exact ⟨⟨⟨⟨e.oneLine_displayKind hkind, by decide⟩, e.oneLine_declaredType htype⟩,
        by decide⟩, hid⟩
    have hfills : Fills o.newline (e.displayKind ++ " " ++ e.declaredType ++ " : " ++ e.id) :=
      .of_oneLine hdeclared (by simp [String.append_eq_empty_iff])
    have hline := (((hfills.prepend (oneLine_pad indent)).append
      (.line (oneLine_labelled " " (by decide) hlabel))).append
      (flows_spaced (flows_renderProperties hproperties indent
        o.endpointPropertiesInline))).wholeLines
    simpa only [String.append_assoc] using hline

theorem flows_renderEndpoints {o : LayoutOptions} {es : List Endpoint}
    (h : OneLines (es.flatMap Endpoint.texts)) (indent : Int) :
    Flows o.newline (renderEndpoints o indent es) := by
  unfold renderEndpoints
  dsimp only
  split
  · exact .line oneLine_empty
  · have hlines : WholeLines o.newline
        (String.join ((es.map (Endpoint.render o (indent + 4))).filter (!·.isEmpty))) := by
      refine wholeLines_join fun s hs => ?_
      obtain ⟨e, he, rfl⟩ := List.mem_map.1 (List.mem_filter.1 hs).1
      exact e.wholeLines_render (oneLines_flatMap.1 h e he) (indent + 4)
    have htitle : Flows o.newline (" \x7b" ++ o.newline ++ (pad (indent + 2) ++ "Endpoints:")) :=
      .next (.line (by decide)) (oneLine_append.2 ⟨oneLine_pad _, by decide⟩)
        (by simp [String.append_eq_empty_iff])
    have hblock := htitle.next_wholeLines hlines (l := pad indent ++ "\x7d")
      (oneLine_append.2 ⟨oneLine_pad _, by decide⟩) (by simp [String.append_eq_empty_iff])
    simpa only [String.append_assoc] using hblock

/-- A device in the block of its container is written without its fixed type id. -/
theorem Device.oneLine_header {o : LayoutOptions} {d : Device} {isChild : Bool}
    (h : OneLines d.texts)
    (htype : isChild = false → OneLine (o.typeIdFor d.namespaceId d.typeId)) :
    OneLine (d.header o isChild) := by
  simp only [Device.texts, List.cons_append, oneLines_cons] at h
  obtain ⟨hnamespace, hown, hid, -⟩ := h
  unfold Device.header
  cases isChild with
  | true => exact oneLine_append.2 ⟨oneLine_append.2 ⟨hown, by decide⟩, hid⟩
  | false =>
    rw [if_neg Bool.false_ne_true]
    simp only [oneLine_append]
    exact ⟨⟨⟨⟨hnamespace, by decide⟩, htype rfl⟩, by decide⟩, hid⟩

theorem Device.exists_block {o : LayoutOptions} {d : Device} (isChild : Bool)
    (h : OneLines d.texts)
    (htype : isChild = false → OneLine (o.typeIdFor d.namespaceId d.typeId)) (indent : Int) :
    ∃ b, IsBlock b ∧
      d.render o indent isChild =
        ended o.newline b ++ (if isChild then "" else o.newline) := by
  have hheader := d.oneLine_header h htype
  simp only [Device.texts, List.cons_append, oneLines_cons, oneLines_append] at h
  obtain ⟨-, -, -, ⟨⟨⟨-, hlabel⟩, hlocation⟩, hproperties⟩, hendpoints⟩ := h
  have hfills : Fills o.newline ("Device " ++ d.header o isChild) :=
    .of_append (by decide) (by decide) (.line hheader)
  obtain ⟨b, hb, htext⟩ := (((((hfills.prepend (oneLine_pad indent)).append
    (.line (oneLine_labelled " " (by decide) hlabel))).append
    (.line (oneLine_labelled " @ " (by decide) hlocation))).append
    (flows_spaced (flows_renderProperties hproperties indent o.devicePropertiesInline))).append
    (flows_renderEndpoints hendpoints indent)).exists_block
  refine ⟨b, hb, ?_⟩
  rw [← htext]
  simp only [Device.render, String.append_assoc]

theorem flows_renderChildren {o : LayoutOptions} {ds : List Device}
    (h : OneLines (ds.flatMap Device.texts)) : Flows o.newline (renderChildren o ds) := by
  unfold renderChildren
  split
  · exact .line oneLine_empty
  · have hchildren : WholeLines o.newline (String.join (ds.map (Device.render o 2 true))) := by
      refine wholeLines_join fun s hs => ?_
      obtain ⟨d, hd, rfl⟩ := List.mem_map.1 hs
      obtain ⟨b, hb, htext⟩ :=
        d.exists_block true (oneLines_flatMap.1 h d hd) nofun 2
      exact ⟨b, hb.oneLine, hb.not_mem, by simpa using htext⟩
    exact (Flows.line (by decide)).next_wholeLines hchildren (by decide) (by decide)

theorem Container.exists_block {o : LayoutOptions} {c : Container} (h : OneLines c.texts) :
    ∃ b, IsBlock b ∧ c.render o = ended o.newline b ++ o.newline := by
  simp only [Container.texts, List.cons_append, oneLines_cons, oneLines_append] at h
  obtain ⟨hnamespace, htype, hid, ⟨⟨hlabel, hlocation⟩, hproperties⟩, hchildren⟩ := h
  have huid : OneLine c.uid := by
    simp only [Container.uid, oneLine_append]
    exact ⟨⟨⟨⟨hnamespace, by decide⟩, htype⟩, by decide⟩, hid⟩
  have hfills : Fills o.newline ("Container " ++ c.uid) :=
    .of_append (by decide) (by decide) (.line huid)
  obtain ⟨b, hb, htext⟩ := ((((hfills.append
    (.line (oneLine_labelled " " (by decide) hlabel))).append
    (.line (oneLine_labelled " @ " (by decide) hlocation))).append
    (flows_spaced (flows_renderProperties hproperties 0 o.containerPropertiesInline))).append
    (flows_renderChildren hchildren)).exists_block
  exact ⟨b, hb, congrArg (· ++ o.newline) htext⟩

/-! ## Variables -/

theorem Entry.fills_render {e : Entry} (h : OneLines e.texts) (indent : Int) (inline : Bool) :
    Fills newline (e.render newline indent inline) := by
  cases e with
  | link l =>
    simp only [Entry.texts, oneLines_cons] at h
    obtain ⟨-, hid, -, hproperties⟩ := h
    have hfills : Fills newline ("channel=" ++ quote l.endpointId) :=
      .of_append (by decide) (by decide) (.line (oneLine_quote hid))
    exact hfills.append (flows_spaced (flows_renderProperties hproperties indent inline))
  | note a =>
    simp only [Entry.texts, oneLines_cons] at h
    obtain ⟨-, hnamespace, hvalue, -, hproperties⟩ := h
    have hfills : Fills newline (a.namespaceId ++ "=" ++ quote a.value) := by
      refine .of_append (oneLine_append.2 ⟨hnamespace, by decide⟩) ?_ (.line (oneLine_quote hvalue))
      simp [String.append_eq_empty_iff]
    exact hfills.append (flows_spaced (flows_renderProperties hproperties indent inline))

theorem oneLine_renderParameters {function : String} {parameters : List String}
    (h : OneLines parameters) : OneLine (renderParameters function parameters) := by
  have hall : OneLine (",".intercalate parameters) := oneLine_intercalate (by decide) h
  unfold renderParameters
  split
  · exact oneLine_empty
  · dsimp only
    split
    · exact oneLine_quote hall
    · exact oneLine_append.2 ⟨oneLine_append.2 ⟨by decide, hall⟩, by decide⟩

theorem Variable.oneLine_groupSuffix {v : Variable} (hbase : OneLines v.baseType.toList)
    (hfunction : OneLines v.function.toList) (hparameters : OneLines v.parameters) :
    OneLine v.groupSuffix := by
  unfold Variable.groupSuffix
  split
  · exact oneLine_empty
  · next hgiven =>
    refine oneLine_append.2
      ⟨oneLine_append.2 ⟨by decide, oneLine_of_given hbase hgiven⟩, ?_⟩
    split
    · exact oneLine_empty
    · next hgiven =>
      exact oneLine_append.2 ⟨oneLine_append.2 ⟨by decide, oneLine_of_given hfunction hgiven⟩,
        oneLine_renderParameters hparameters⟩

/-- A list of texts with a comma between each two, left out in some cases. -/
theorem oneLine_listed {opening closing : String} (hopening : OneLine opening)
    (hclosing : OneLine closing) {items : List String} (h : OneLines items) (left : Bool) :
    OneLine (if left then "" else opening ++ ", ".intercalate items ++ closing) := by
  split
  · exact oneLine_empty
  · exact oneLine_append.2
      ⟨oneLine_append.2 ⟨hopening, oneLine_intercalate (by decide) h⟩, hclosing⟩

theorem Variable.oneLine_icon {v : Variable} (h : OneLines v.iconName.toList) :
    OneLine (match given v.iconName with
      | some icon => " <" ++ icon ++ ">"
      | none => "") := by
  split
  · next hgiven =>
    exact oneLine_append.2 ⟨oneLine_append.2 ⟨by decide, oneLine_of_given h hgiven⟩, by decide⟩
  · exact oneLine_empty

theorem flows_entries {es : List Entry} (h : OneLines (es.flatMap Entry.texts)) (inline : Bool) :
    Flows newline (bracketed "\x7b" "\x7d" newline 0 inline
      (es.map (Entry.render newline 2 inline))) := by
  refine flows_bracketed (by decide) (by decide) (by decide) _ _ ?_
  rw [List.forall_mem_map]
  exact fun e he => e.fills_render (oneLines_flatMap.1 h e he) 2 inline

theorem Variable.exists_block {o : LayoutOptions} {v : Variable} (h : OneLines v.texts) :
    ∃ b, IsBlock b ∧ v.render o = ended o.newline b := by
  simp only [Variable.texts, List.cons_append, oneLines_cons, oneLines_append] at h
  obtain ⟨htype, hname, ⟨⟨⟨⟨⟨⟨⟨hlabel, -⟩, hicon⟩, hgroups⟩, htags⟩, hbase⟩, hfunction⟩,
    hparameters⟩, hentries⟩ := h
  have hhead : Fills o.newline (v.dataType ++ v.groupSuffix ++ " " ++ v.name) := by
    refine .of_oneLine ?_ (by simp [String.append_eq_empty_iff])
    simp only [oneLine_append]
    exact ⟨⟨⟨htype, v.oneLine_groupSuffix hbase hfunction hparameters⟩, by decide⟩, hname⟩
  have hquoted : OneLines (v.tags.map quote) := by
    intro s hs
    obtain ⟨t, ht, rfl⟩ := List.mem_map.1 hs
    exact oneLine_quote (htags t ht)
  have hgroupsText : OneLine
      (if v.groups.isEmpty then "" else " ( " ++ ", ".intercalate v.groups ++ " )") :=
    oneLine_listed (by decide) (by decide) hgroups _
  have htagsText : OneLine
      (if v.tags.isEmpty then "" else " [ " ++ ", ".intercalate (v.tags.map quote) ++ " ]") :=
    oneLine_listed (by decide) (by decide) hquoted _
  obtain ⟨b, hb, htext⟩ := (((((hhead.append
    (.line (oneLine_labelled " " (by decide) hlabel))).append
    (.line (v.oneLine_icon hicon))).append (.line hgroupsText)).append (.line htagsText)).append
    (flows_spaced (flows_entries hentries o.variableEntriesInline))).exists_block
  exact ⟨b, hb, htext⟩

/-! ## Streams -/

/-- The two streams are the lines of blocks, one for each entry in its order, and are read as these
blocks. -/
structure InBlocks (o : LayoutOptions) (c : Catalog) (ds vs : List (List String)) : Prop where
  /-- The text of a container or device is the lines of its block and one empty line. -/
  entry : List.Forall₂ (fun e b => IsBlock b ∧ e.render o = ended o.newline (b ++ [""]))
    (sortedDeviceEntries c) ds
  devices : devicesText o c = ended o.newline (ds.flatMap fun b => b ++ [""])
  devices_read : blocks (lines (devicesText o c)) = ds
  /-- The text of a variable is the lines of its block. -/
  var : List.Forall₂ (fun v b => IsBlock b ∧ v.render o = ended o.newline b) (sortedVariables c) vs
  /-- One empty line stands between each two variables, and none after the last. -/
  vars : variablesText o c = ended o.newline ([""].intercalate vs)
  vars_read : blocks (lines (variablesText o c)) = vs

section Streams

variable {α : Type} {f : α → String} {xs : List α} {bs : List (List String)}

theorem join_map_eq_ended
    (h : List.Forall₂ (fun x b => IsBlock b ∧ f x = ended newline (b ++ [""])) xs bs) :
    String.join (xs.map f) = ended newline (bs.flatMap fun b => b ++ [""]) := by
  induction h with
  | nil => rfl
  | cons hx _ ih => rw [List.map_cons, String.join_cons, List.flatMap_cons, ended_append, ih, hx.2]

theorem intercalate_map_eq_ended
    (h : List.Forall₂ (fun x b => IsBlock b ∧ f x = ended newline b) xs bs) :
    newline.intercalate (xs.map f) = ended newline ([""].intercalate bs) := by
  induction h with
  | nil => rfl
  | cons hx hrest ih =>
    cases hrest with
    | nil => simpa using hx.2
    | cons _ _ =>
      rw [List.map_cons, List.map_cons, String.intercalate_cons_cons, ← List.map_cons, ih, hx.2,
        List.intercalate_cons_cons, ended_append, ended_append]
      simp

/-- Lines of blocks, and the empty lines between them, are lines of their own. -/
theorem oneLines_intercalate_blocks (h : ∀ b ∈ bs, IsBlock b) :
    OneLines ([""].intercalate bs) := by
  induction bs with
  | nil => exact oneLines_nil
  | cons b bs ih =>
    obtain ⟨hb, hbs⟩ := List.forall_mem_cons.1 h
    cases bs with
    | nil => simpa [OneLines] using hb.oneLine
    | cons b' bs =>
      rw [List.intercalate_cons_cons]
      simpa using ⟨hb.oneLine, ih hbs⟩

end Streams

/-- Cut at its empty lines, a stream of texts without line ends falls into its entries. -/
theorem streams_in_blocks {o : LayoutOptions} {c : Catalog} (hnewline : IsLineEnd o.newline)
    (hc : OneLines c.texts)
    (htypes : ∀ d ∈ c.devices, OneLine (o.typeIdFor d.namespaceId d.typeId)) :
    ∃ ds vs, InBlocks o c ds vs := by
  simp only [Catalog.texts, oneLines_append, oneLines_flatMap] at hc
  obtain ⟨⟨hcontainers, hdevices⟩, hvars⟩ := hc
  have hentry : ∀ e ∈ sortedDeviceEntries c,
      ∃ b, IsBlock b ∧ e.render o = ended o.newline (b ++ [""]) := by
    intro e he
    simp only [sortedDeviceEntries, List.mem_append, List.mem_map, List.mem_mergeSort] at he
    rcases he with ⟨p, hp, rfl⟩ | ⟨d, hd, rfl⟩
    · obtain ⟨b, hb, htext⟩ := p.exists_block (o := o) (hcontainers p hp)
      exact ⟨b, hb, by simpa [DeviceEntry.render, ended_append] using htext⟩
    · obtain ⟨b, hb, htext⟩ :=
        d.exists_block false (hdevices d hd) (fun _ => htypes d hd) 0
      exact ⟨b, hb, by simpa [DeviceEntry.render, ended_append] using htext⟩
  have hvar : ∀ v ∈ sortedVariables c, ∃ b, IsBlock b ∧ v.render o = ended o.newline b := by
    intro v hv
    rw [sortedVariables, List.mem_mergeSort] at hv
    exact v.exists_block (hvars v hv)
  obtain ⟨ds, hds⟩ := exists_forall₂ hentry
  obtain ⟨vs, hvs⟩ := exists_forall₂ hvar
  -- What the entries have come to is blocks, and blocks are read back from their lines.
  have hblocks : ∀ b ∈ ds, IsBlock b := fun b hb => by
    obtain ⟨_, _, hb, -⟩ := exists_left_of_mem hds hb
    exact hb
  have hblocks' : ∀ b ∈ vs, IsBlock b := fun b hb => by
    obtain ⟨_, _, hb, -⟩ := exists_left_of_mem hvs hb
    exact hb
  have hdevicesText : devicesText o c = ended o.newline (ds.flatMap fun b => b ++ [""]) :=
    join_map_eq_ended hds
  have hvarsText : variablesText o c = ended o.newline ([""].intercalate vs) :=
    intercalate_map_eq_ended hvs
  refine ⟨ds, vs, hds, hdevicesText, ?_, hvs, hvarsText, ?_⟩
  · rw [hdevicesText, lines_ended hnewline, blocks_closed hblocks]
    intro l hl
    obtain ⟨b, hb, hl⟩ := List.mem_flatMap.1 hl
    rcases List.mem_append.1 hl with hl | hl
    · exact (hblocks b hb).oneLine l hl
    · rw [List.mem_singleton.1 hl]
      exact oneLine_empty
  · rw [hvarsText, lines_ended hnewline (oneLines_intercalate_blocks hblocks'),
      blocks_separated hblocks']

/-- A bridge with a bulb, a plug and a lamp with what is attached to it. -/
def bridgeHome : Catalog where
  containers := [{
    namespaceId := "hue", typeId := "bridge", containerId := "b1", location := some "Hall"
    properties := [{ name := "a", raw := "" }, { name := "b", raw := " " }]
    children := [{
      namespaceId := "hue", typeId := "bulb", containerId := some "b1", deviceId := "d1"
      displayName := some "Lamp \"left\""
      properties := [{ name := "id", raw := "1", kind := .int }]
      endpoints := [
        { kind := "STATE", id := "power" },
        { kind := "TRIGGER", id := "press"
          properties := [{ name := "x", raw := "1,5", kind := .decimal }] }] }] }]
  devices := [{
    namespaceId := "shelly", typeId := "plug", deviceId := "p1"
    endpoints := [{ kind := "STATE", id := "power" }] }]
  vars := [{
    dataType := "Switch", name := "Lamp", groups := ["gHall", ""], tags := ["Light"]
    entries := [
      .link {
        name := "l", endpointId := "hue:bulb:b1:d1:power", variableName := "Lamp"
        properties := [{ name := "profile", raw := "follow" }] },
      .note { name := "n", namespaceId := "meta", value := "", variableName := "Lamp" }] }]

/-- Lists of endpoints on lines of their own, endpoints without properties included. -/
def spreadLayout : LayoutOptions where
  includeDefaultEndpoints := true
  endpointPropertiesInline := false

theorem streams_in_blocks_of_bridgeHome :
    IsLineEnd spreadLayout.newline ∧ OneLines bridgeHome.texts ∧
      (∀ d ∈ bridgeHome.devices, OneLine (spreadLayout.typeIdFor d.namespaceId d.typeId)) ∧
      ∃ ds vs, InBlocks spreadLayout bridgeHome ds vs ∧ ds.length = 2 ∧ vs.length = 1 := by
  have hnewline : IsLineEnd spreadLayout.newline := .inl rfl
  have hc : OneLines bridgeHome.texts := by decide
  have htypes : ∀ d ∈ bridgeHome.devices,
      OneLine (spreadLayout.typeIdFor d.namespaceId d.typeId) := by decide
  obtain ⟨ds, vs, h⟩ := streams_in_blocks hnewline hc htypes
  refine ⟨hnewline, hc, htypes, ds, vs, h, ?_, ?_⟩
  · rw [← h.entry.length_eq]
    simp [sortedDeviceEntries, bridgeHome]
  · rw [← h.var.length_eq]
    simp [sortedVariables, bridgeHome]

/-- One device, of a namespace that has a fixed type id with an empty line in it. -/
def oneHub : Catalog where
  devices := [{ namespaceId := "acme", typeId := "hub", deviceId := "h1" }]

def brokenType : LayoutOptions where
  newline := "\n"
  vendorTypes := [("acme", "x\n\ny")]

/-- The one device of a catalog without line ends is written as two blocks. -/
theorem type_in_two_blocks :
    IsLineEnd brokenType.newline ∧ OneLines oneHub.texts ∧
      blocks (lines (devicesText brokenType oneHub)) = [["Device acme:x"], ["y:h1"]] ∧
      ¬∃ ds vs, InBlocks brokenType oneHub ds vs := by
  have hentries : sortedDeviceEntries oneHub =
      [.device { namespaceId := "acme", typeId := "hub", deviceId := "h1" }] := by
    simp [sortedDeviceEntries, oneHub]
  have hread : blocks (lines (devicesText brokenType oneHub)) =
      [["Device acme:x"], ["y:h1"]] := by
    rw [devicesText, hentries]
    decide
  refine ⟨.inr rfl, by decide, hread, ?_⟩
  rintro ⟨ds, vs, h⟩
  have hlength := h.entry.length_eq
  rw [← h.devices_read, hread, hentries] at hlength
  cases hlength

end HomeCatalog
