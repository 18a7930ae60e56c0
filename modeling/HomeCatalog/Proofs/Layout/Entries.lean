import HomeCatalog.Proofs.Catalog.Attachment
import HomeCatalog.Proofs.Layout.Properties
import HomeCatalog.Proofs.Value.Inferred

/-!
# Links and notes are told apart

The entries of a variable are written one after the other, a link under the word `channel` and a
note under its namespace. Two built variables that differ in their entries only have one text
exactly if their entries agree one by one (`render_eq_iff_of_buildVariables`). A note then agrees
with a link only if `channel` is its namespace, which nothing forbids.

Neither namespaces nor names of properties are quoted. One that holds what looks like the end of
itself and the beginning of a value is read as something else, and so is left out here.
-/

namespace HomeCatalog

/-! ## Reading -/

/-- What an entry is written from: the word before the equals sign, the text after it, and the
names and values of the properties. -/
structure WrittenEntry where
  lead : String
  target : String
  properties : List (String × String)
deriving DecidableEq, Repr

def Entry.lead : Entry → String
  | .link _ => "channel"
  | .note a => a.namespaceId

def Entry.target : Entry → String
  | .link l => l.endpointId
  | .note a => a.value

def Entry.written (e : Entry) : WrittenEntry :=
  ⟨e.lead, e.target, e.properties.map Value.written⟩

def entryFrame (newline : String) (inline : Bool) : Frame :=
  .ofLayout '\x7b' '\x7d' (by decide) newline 0 inline

/-- Read an entry. Properties follow unless the list goes on. -/
def readEntry (newline : String) (inline : Bool) : Reader WrittenEntry := fun cs =>
  (readKey (· == '"') cs).bind fun (lead, rest) =>
    (unquote? rest).bind fun (target, rest) =>
      if (entryFrame newline inline).Stops rest then
        some (⟨String.ofList lead, String.ofList target, []⟩, rest)
      else
        (takeOff? [' '] rest).bind fun rest =>
          (readProperties true newline 2 inline rest).map fun (properties, rest) =>
            (⟨String.ofList lead, String.ofList target, properties⟩, rest)

def readEntries (newline : String) (inline : Bool) : Reader (List WrittenEntry) :=
  (entryFrame newline inline).read (readEntry newline inline)

/-! ## Entries as they are written -/

/-- The word before the equals sign and the names of the properties hold no equals sign that could
be taken for the one behind them. -/
structure Entry.IsPlain (e : Entry) : Prop where
  lead : IsKey (· == '"') e.lead.toList
  name : ∀ v ∈ e.properties, IsKey (beginsValue true) v.name.toList

theorem Entry.isPlain_of_not_mem {e : Entry} (hlead : '=' ∉ e.lead.toList)
    (hname : ∀ v ∈ e.properties, '=' ∉ v.name.toList) : e.IsPlain where
  lead := isKey_of_not_mem hlead
  name := fun v hv => isKey_of_not_mem (hname v hv)

/-- The properties of an entry are as an entry's are when it is built. -/
def Entry.IsSound (e : Entry) : Prop :=
  ∀ v ∈ e.properties, v.IsSound ∧ v.metadata = true

/-- The entries are written alike: two links to one endpoint, or two notes of one namespace and one
value, or a link and a note of the namespace `channel`, with the same properties. -/
def Entry.AgreesWith : Entry → Entry → Prop
  | .link l, .link m => l.endpointId = m.endpointId ∧
      l.properties.map Value.written = m.properties.map Value.written
  | .note a, .note b => a.namespaceId = b.namespaceId ∧ a.value = b.value ∧
      a.properties.map Value.written = b.properties.map Value.written
  | .link l, .note a => a.namespaceId = "channel" ∧ l.endpointId = a.value ∧
      l.properties.map Value.written = a.properties.map Value.written
  | .note a, .link l => a.namespaceId = "channel" ∧ a.value = l.endpointId ∧
      a.properties.map Value.written = l.properties.map Value.written

theorem Entry.agreesWith_iff {e e' : Entry} : e.AgreesWith e' ↔ e.written = e'.written := by
  simp only [written, WrittenEntry.mk.injEq]
  cases e with
  | link l =>
    cases e' with
    | link m => simp [AgreesWith, lead, target, properties]
    | note a => simp [AgreesWith, lead, target, properties, eq_comm]
  | note a =>
    cases e' with
    | link m => simp [AgreesWith, lead, target, properties]
    | note b => simp [AgreesWith, lead, target, properties]

theorem map_eq_map_iff {α β : Type} {f : α → β} {xs ys : List α} :
    xs.map f = ys.map f ↔ List.Forall₂ (fun x y => f x = f y) xs ys := by
  rw [← List.forall₂_eq_eq_eq, List.forall₂_map_left_iff, List.forall₂_map_right_iff]

theorem forall₂_agreesWith_iff {es es' : List Entry} :
    List.Forall₂ Entry.AgreesWith es es' ↔ es.map Entry.written = es'.map Entry.written := by
  rw [map_eq_map_iff]
  constructor
  · exact List.Forall₂.imp fun _ _ => Entry.agreesWith_iff.1
  · exact List.Forall₂.imp fun _ _ => Entry.agreesWith_iff.2

/-- The entries of a variable between their brackets. -/
def renderEntries (newline : String) (inline : Bool) (es : List Entry) : String :=
  bracketed "\x7b" "\x7d" newline 0 inline (es.map (Entry.render newline 2 inline))

theorem toList_spaced {s : String} (h : s ≠ "") : (spaced s).toList = ' ' :: s.toList := by
  rw [spaced, String.isEmpty_eq_false_iff.2 h, if_neg Bool.false_ne_true, String.toList_append]
  rfl

theorem spaced_inj {s t : String} : spaced s = spaced t ↔ s = t := by
  refine ⟨fun h => ?_, fun h => congrArg spaced h⟩
  rw [← String.toList_inj] at h
  by_cases hs : s = ""
  · by_cases ht : t = ""
    · rw [hs, ht]
    · rw [hs, toList_spaced ht] at h
      cases h
  · by_cases ht : t = ""
    · rw [ht, toList_spaced hs] at h
      cases h
    · rw [toList_spaced hs, toList_spaced ht, List.cons.injEq] at h
      exact String.toList_inj.1 h.2

theorem Entry.render_eq (newline : String) (indent : Int) (inline : Bool) (e : Entry) :
    e.render newline indent inline = e.lead ++ "=" ++ quote e.target ++
      spaced (renderProperties newline indent inline e.properties) := by
  cases e with
  | link l => rfl
  | note a => rfl

/-! ## Reading back -/

section ReadBack

variable {newline : String} {inline : Bool}

theorem edge_propertyFrame :
    (propertyFrame newline 2 inline).edge =
      (entryFrame newline inline).edge ++ (if inline then [] else [' ', ' ']) := by
  cases inline <;> simp [propertyFrame, entryFrame, Frame.ofLayout, pad]

/-- Where properties begin, the list of entries does not go on. -/
theorem not_stops_properties {vs : ValueList} (hne : vs ≠ []) (rest : List Char) :
    ¬(entryFrame newline inline).Stops
      ([' '] ++ ((renderProperties newline 2 inline vs).toList ++ rest)) := by
  obtain ⟨s, hs⟩ : ∃ s, [' '] ++ ((renderProperties newline 2 inline vs).toList ++ rest) =
      [' ', '['] ++ ((entryFrame newline inline).edge ++ s) := by
    rw [toList_renderProperties hne, Frame.write, Frame.lead, edge_propertyFrame]
    simp only [List.append_assoc, List.cons_append, List.nil_append]
    exact ⟨_, rfl⟩
  rw [hs]
  rintro (hclosing | ⟨t, ht⟩)
  · refine Frame.not_closing_at (List.cons_ne_nil _ _) ?_ s hclosing
    change '\x7d' ∉ [' ', '[']
    decide
  · cases ht

theorem readEntry_append {e : Entry} (hplain : e.IsPlain) (hsound : e.IsSound) {rest : List Char}
    (hrest : (entryFrame newline inline).Stops rest) :
    readEntry newline inline ((e.render newline 2 inline).toList ++ rest) =
      some (e.written, rest) := by
  have htext : (e.render newline 2 inline).toList ++ rest =
      e.lead.toList ++ '=' :: ((quote e.target).toList ++
        ((spaced (renderProperties newline 2 inline e.properties)).toList ++ rest)) := by
    rw [Entry.render_eq]
    simp
  rw [htext, toList_quote_append, readEntry, readKey_append rfl hplain.lead rfl, Option.bind_some]
  dsimp only
  rw [← toList_quote_append, unquote?_quote_append, Option.bind_some]
  dsimp only
  rw [String.ofList_toList, String.ofList_toList, Entry.written]
  by_cases hne : e.properties = []
  · have hempty : spaced (renderProperties newline 2 inline []) = "" := rfl
    rw [hne, hempty, String.toList_empty, List.nil_append, if_pos hrest]
    rfl
  · have hspace : (spaced (renderProperties newline 2 inline e.properties)).toList ++ rest =
        [' '] ++ ((renderProperties newline 2 inline e.properties).toList ++ rest) := by
      have hsome : renderProperties newline 2 inline e.properties ≠ "" := by
        rw [← String.toList_eq_nil_iff.ne, toList_renderProperties hne]
        exact List.cons_ne_nil _ _
      rw [toList_spaced hsome]
      rfl
    have hread : ∀ v ∈ e.properties, v.IsReadable true := fun v hv =>
      { toIsSound := (hsound v hv).1, name := hplain.name v hv, mode := fun _ => (hsound v hv).2 }
    rw [hspace, if_neg (not_stops_properties hne rest), takeOff?_append, Option.bind_some,
      readProperties_append hne hread]
    rfl

theorem toList_renderEntries {es : List Entry} (hne : es ≠ []) :
    (renderEntries newline inline es).toList =
      (entryFrame newline inline).write (es.map fun e => (e.render newline 2 inline).toList) := by
  have hitems : es.map (Entry.render newline 2 inline) ≠ [] := by simpa using hne
  have hwrite := Frame.toList_bracketed '\x7b' '\x7d' (by decide) newline 0 inline hitems
  rw [List.map_map] at hwrite
  exact hwrite

theorem readEntries_append {es : List Entry} (hne : es ≠ []) (hplain : ∀ e ∈ es, e.IsPlain)
    (hsound : ∀ e ∈ es, e.IsSound) (rest : List Char) :
    readEntries newline inline ((renderEntries newline inline es).toList ++ rest) =
      some (es.map Entry.written, rest) := by
  rw [toList_renderEntries hne, readEntries]
  exact Frame.read_write hne
    (fun e he rest hrest => readEntry_append (hplain e he) (hsound e he) hrest) rest

end ReadBack

/-! ## Texts of entries -/

theorem renderProperties_congr {vs ws : ValueList}
    (h : vs.map Value.written = ws.map Value.written) (newline : String) (indent : Int)
    (inline : Bool) :
    renderProperties newline indent inline vs = renderProperties newline indent inline ws := by
  have hassignment : vs.map Value.assignment = ws.map Value.assignment := by
    refine map_eq_map_iff.2 ((map_eq_map_iff.1 h).imp fun v w hvw => ?_)
    rw [Value.written, Value.written, Prod.mk.injEq] at hvw
    rw [Value.assignment, Value.assignment, hvw.1, hvw.2]
  rw [renderProperties, renderProperties, hassignment]

theorem Entry.render_congr {e e' : Entry} (h : e.written = e'.written) (newline : String)
    (indent : Int) (inline : Bool) :
    e.render newline indent inline = e'.render newline indent inline := by
  rw [written, written, WrittenEntry.mk.injEq] at h
  obtain ⟨hlead, htarget, hproperties⟩ := h
  rw [render_eq, render_eq, hlead, htarget, renderProperties_congr hproperties]

theorem renderEntries_ne_empty {newline : String} {inline : Bool} {es : List Entry}
    (hne : es ≠ []) : renderEntries newline inline es ≠ "" := by
  rw [← String.toList_eq_nil_iff.ne, toList_renderEntries hne]
  exact List.cons_ne_nil _ _

theorem renderEntries_eq_iff {newline : String} {inline : Bool} {es es' : List Entry}
    (hplain : ∀ e ∈ es ++ es', e.IsPlain) (hsound : ∀ e ∈ es ++ es', e.IsSound) :
    renderEntries newline inline es = renderEntries newline inline es' ↔
      List.Forall₂ Entry.AgreesWith es es' := by
  rw [List.forall_mem_append] at hplain hsound
  rw [forall₂_agreesWith_iff]
  constructor
  · intro h
    by_cases hne : es = []
    · subst hne
      by_cases hne' : es' = []
      · rw [hne']
      · exact absurd h.symm (renderEntries_ne_empty hne')
    · by_cases hne' : es' = []
      · subst hne'
        exact absurd h (renderEntries_ne_empty hne)
      · have hread : readEntries newline inline ((renderEntries newline inline es).toList ++ []) =
            some (es.map Entry.written, []) :=
          readEntries_append hne hplain.1 hsound.1 []
        rw [h, readEntries_append hne' hplain.2 hsound.2, Option.some.injEq, Prod.mk.injEq] at hread
        exact hread.1.symm
  · intro h
    have hrender := map_eq_map_iff.2 ((map_eq_map_iff.1 h).imp fun e e' hee' =>
      Entry.render_congr hee' newline 2 inline)
    rw [renderEntries, renderEntries, hrender]

/-! ## What is built -/

theorem ValueKind.declared?_ne_unknown (declaration : String) :
    declared? declaration ≠ some .unknown := by
  have hall : ∀ entry ∈ declaredNames, entry.2 ≠ .unknown := by decide
  unfold declared?
  dsimp only
  intro h
  obtain ⟨before, after, hnames, -⟩ := List.lookup_eq_some_iff.1 h
  rw [hnames] at hall
  exact hall _ (List.mem_append_right _ List.mem_cons_self) rfl

theorem Property.kind_valueIn_ne_unknown (metadata : Bool) (p : Property) :
    (p.valueIn metadata).kind ≠ .unknown := by
  have hdeclared := ValueKind.declared?_ne_unknown p.declaredKind
  rw [valueIn, kind?]
  dsimp only
  cases hk : ValueKind.declared? p.declaredKind with
  | none => exact ValueKind.infer_ne_unknown p.raw
  | some k =>
    rintro rfl
    exact hdeclared hk

theorem isSound_of_valuesOfProperties {owner : Owner} {metadata : Bool} {ps : List Property}
    {vs : ValueList} (h : valuesOfProperties owner metadata ps = .ok vs) :
    ∀ v ∈ vs, v.IsSound := by
  intro v hv
  obtain ⟨p, -, hp⟩ := exists_left_of_mem (mapM_eq_ok_iff.1 h) hv
  obtain ⟨rfl, hfault⟩ := valueOfProperty_eq_ok_iff.1 hp
  exact ⟨p.kind_valueIn_ne_unknown metadata, hfault⟩

section Built

variable {selects : String → Bool} {vars : List VariableRecord} {links : List LinkRecord}
  {notes : List NoteRecord} {built : List Variable}
  (h : buildVariables selects vars links notes = .ok built)

include h

theorem isSound_of_mem_entries {v : Variable} (hv : v ∈ built) {e : Entry} (he : e ∈ v.entries) :
    e.IsSound := by
  have hmode := metadata_of_mem_entries h hv he
  have hvalues : ∀ p ∈ e.properties, p.IsSound := by
    rcases exists_record_of_mem_entries h hv he with ⟨r, -, l, hrl, rfl⟩ | ⟨r, -, a, hra, rfl⟩
    · obtain ⟨-, properties, -, -, hp, rfl⟩ := Link.ofRecord_eq_ok_iff.1 hrl
      exact isSound_of_valuesOfProperties hp
    · obtain ⟨-, -, properties, -, hp, rfl⟩ := Note.ofRecord_eq_ok_iff.1 hra
      exact isSound_of_valuesOfProperties hp
  exact fun p hp => ⟨hvalues p hp, hmode p hp⟩

end Built

/-- What is written around the entries does not depend on them. -/
theorem Variable.render_entries_eq_iff {o : LayoutOptions} {v : Variable} {es es' : List Entry} :
    { v with entries := es }.render o = { v with entries := es' }.render o ↔
      renderEntries o.newline o.variableEntriesInline es =
        renderEntries o.newline o.variableEntriesInline es' := by
  have hsuffix : ∀ es, { v with entries := es }.groupSuffix = v.groupSuffix := fun _ => rfl
  refine .trans ?_ spaced_inj
  rw [render, render, hsuffix, hsuffix, String.append_left_inj]
  exact String.append_right_inj _

/-- Two built variables that differ in their entries only, and whose entries are plain, have one
text exactly if the entries agree one by one, whatever the line end and the layout. -/
theorem render_eq_iff_of_buildVariables {selects selects' : String → Bool}
    {vars vars' : List VariableRecord} {links links' : List LinkRecord}
    {notes notes' : List NoteRecord} {built built' : List Variable}
    (h : buildVariables selects vars links notes = .ok built)
    (h' : buildVariables selects' vars' links' notes' = .ok built') {v w : Variable}
    (hv : v ∈ built) (hw : w ∈ built')
    (hsame : { v with entries := [] } = { w with entries := [] })
    (hplain : ∀ e ∈ v.entries ++ w.entries, e.IsPlain) (o : LayoutOptions) :
    v.render o = w.render o ↔ List.Forall₂ Entry.AgreesWith v.entries w.entries := by
  have hsound : ∀ e ∈ v.entries ++ w.entries, e.IsSound :=
    List.forall_mem_append.2
      ⟨fun _ he => isSound_of_mem_entries h hv he, fun _ he => isSound_of_mem_entries h' hw he⟩
  have hentries : { v with entries := w.entries } = w :=
    congrArg (fun u : Variable => { u with entries := w.entries }) hsame
  rw [← renderEntries_eq_iff hplain hsound, ← v.render_entries_eq_iff, hentries]

/-- What is built of these links and notes to a variable `Light`. -/
def buildLight (links : List LinkRecord) (notes : List NoteRecord) :
    Except CatalogFault (List Variable) :=
  buildVariables (fun _ => true) [{ name := "Light", itemType := "Switch" }] links notes

def lightOf (es : List Entry) : Variable where
  dataType := "Switch"
  name := "Light"
  entries := es

def lampLink (ports : ValueList) : Entry :=
  .link { name := "l", endpointId := "hue:lamp:l1", variableName := "Light", properties := ports }

def noteOf (namespaceId value : String) (ports : ValueList) : Entry :=
  .note { name := namespaceId ++ ":Light", namespaceId := namespaceId, value := value,
          variableName := "Light", properties := ports }

def portOf (name raw : String) : Value where
  name := name
  raw := raw
  kind := .int
  metadata := true

/-- A link that is left out shows in the text, whatever the line end is. -/
theorem render_eq_iff_of_lights :
    buildLight [⟨"l", "hue:lamp:l1", "Light", [⟨"delay", "Int", "5"⟩]⟩]
      [⟨"alexa:Light", "Lamp \" ]", []⟩] =
        .ok [lightOf [lampLink [portOf "delay" "5"], noteOf "alexa" "Lamp \" ]" []]] ∧
    buildLight [] [⟨"alexa:Light", "Lamp \" ]", []⟩] =
      .ok [lightOf [noteOf "alexa" "Lamp \" ]" []]] ∧
    ∀ o : LayoutOptions,
      (lightOf [lampLink [portOf "delay" "5"], noteOf "alexa" "Lamp \" ]" []]).render o ≠
        (lightOf [noteOf "alexa" "Lamp \" ]" []]).render o := by
  have hv : buildLight [⟨"l", "hue:lamp:l1", "Light", [⟨"delay", "Int", "5"⟩]⟩]
      [⟨"alexa:Light", "Lamp \" ]", []⟩] =
        .ok [lightOf [lampLink [portOf "delay" "5"], noteOf "alexa" "Lamp \" ]" []]] := rfl
  have hw : buildLight [] [⟨"alexa:Light", "Lamp \" ]", []⟩] =
      .ok [lightOf [noteOf "alexa" "Lamp \" ]" []]] := rfl
  have hequals : ∀ e ∈ [lampLink [portOf "delay" "5"], noteOf "alexa" "Lamp \" ]" []] ++
        [noteOf "alexa" "Lamp \" ]" []],
      '=' ∉ e.lead.toList ∧ ∀ v ∈ e.properties, '=' ∉ v.name.toList := by decide
  refine ⟨hv, hw, fun o heq => ?_⟩
  have hagree := (render_eq_iff_of_buildVariables hv hw (List.mem_singleton_self _)
    (List.mem_singleton_self _) rfl
    (fun e he => Entry.isPlain_of_not_mem (hequals e he).1 (hequals e he).2) o).1 heq
  cases hagree.length_eq

/-- A note of the namespace `channel` is written as a link is, and a namespace or the name of a
property that holds an equals sign makes one note look like two. -/
theorem lights_written_alike :
    (buildLight [⟨"l", "hue:lamp:l1", "Light", []⟩] [] = .ok [lightOf [lampLink []]] ∧
      buildLight [] [⟨"channel:Light", "hue:lamp:l1", []⟩] =
        .ok [lightOf [noteOf "channel" "hue:lamp:l1" []]] ∧
      (lightOf [lampLink []]).render {} =
        (lightOf [noteOf "channel" "hue:lamp:l1" []]).render {}) ∧
    (buildLight [] [⟨"a=\"x\", b:Light", "y", []⟩] =
        .ok [lightOf [noteOf "a=\"x\", b" "y" []]] ∧
      buildLight [] [⟨"a:Light", "x", []⟩, ⟨"b:Light", "y", []⟩] =
        .ok [lightOf [noteOf "a" "x" [], noteOf "b" "y" []]] ∧
      (lightOf [noteOf "a=\"x\", b" "y" []]).render { variableEntriesInline := true } =
        (lightOf [noteOf "a" "x" [], noteOf "b" "y" []]).render
          { variableEntriesInline := true }) ∧
    buildLight [] [⟨"a:Light", "x", [⟨"p=1 ], b=\"y\" [ q", "Int", "2"⟩]⟩] =
        .ok [lightOf [noteOf "a" "x" [portOf "p=1 ], b=\"y\" [ q" "2"]]] ∧
      buildLight [] [⟨"a:Light", "x", [⟨"p", "Int", "1"⟩]⟩, ⟨"b:Light", "y", [⟨"q", "Int", "2"⟩]⟩] =
        .ok [lightOf [noteOf "a" "x" [portOf "p" "1"], noteOf "b" "y" [portOf "q" "2"]]] ∧
      (lightOf [noteOf "a" "x" [portOf "p=1 ], b=\"y\" [ q" "2"]]).render
          { variableEntriesInline := true } =
        (lightOf [noteOf "a" "x" [portOf "p" "1"], noteOf "b" "y" [portOf "q" "2"]]).render
          { variableEntriesInline := true } :=
  ⟨⟨rfl, rfl, rfl⟩, ⟨rfl, rfl, by decide⟩, rfl, rfl, by decide⟩

end HomeCatalog
