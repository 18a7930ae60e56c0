import HomeCatalog.Proofs.Layout.Order
import HomeCatalog.Proofs.Layout.Properties

/-!
# Where quoted texts stand

Labels, locations, tags, the values of notes and of properties, the endpoint ids of links and the
parameters of a count are written between quotes. Each has its place in the text of an entity and in
a stream: whatever is said there, the text before the place and the text behind it are the same
(`Quotes`). A reader that begins at the place thus finds what is said and is left with the text
behind it (`quoted_texts_read_back`), so no such text ends too early or takes in what follows.

A place is given by a family of entities that agree in everything but the one text that is said
there. Places are found along the tree of entities, one kind of entity after the other
(`EndpointPlace.quotes`, `DevicePlace.quotes`, …). In a stream an entity comes to stand by its
names, and these are not quoted, so all members of a family come to stand between the same
neighbours.
-/

namespace HomeCatalog

variable {ι : Type}

/-! ## Texts with a quoted text in them -/

/-- The texts of a family are one text but for what is quoted at one place of it. -/
def Quotes (text said : ι → String) : Prop :=
  ∃ before after : String, ∀ i, text i = before ++ quote (said i) ++ after

/-- There is a place where each text of the family is read to say its own, and all have the same
before the place and are left with the same behind it. -/
def ReadAtPlace (text said : ι → String) : Prop :=
  ∃ before after : String, ∀ i, text i = before ++ quote (said i) ++ after ∧
    unquote? ((text i).toList.drop before.length) = some ((said i).toList, after.toList)

namespace Quotes

variable {text text' said : ι → String}

theorem readAtPlace (h : Quotes text said) : ReadAtPlace text said := by
  obtain ⟨before, after, htext⟩ := h
  refine ⟨before, after, fun i => ⟨htext i, ?_⟩⟩
  have hplace : (text i).toList.drop before.length = (quote (said i)).toList ++ after.toList := by
    rw [htext, String.toList_append, String.toList_append, List.append_assoc,
      ← String.length_toList, List.drop_left]
  rw [hplace, unquote?_quote_append]

theorem of_quote (said : ι → String) : Quotes (fun i => quote (said i)) said :=
  ⟨"", "", fun i => by rw [String.empty_append, String.append_empty]⟩

theorem congr (h : Quotes text said) (heq : ∀ i, text' i = text i) : Quotes text' said := by
  obtain ⟨before, after, htext⟩ := h
  exact ⟨before, after, fun i => (heq i).trans (htext i)⟩

theorem ne_empty (h : Quotes text said) (i : ι) : text i ≠ "" := by
  obtain ⟨before, after, htext⟩ := h
  rw [htext]
  simp [quote, String.append_eq_empty_iff]

/-- What is the same in the whole family may stand behind. -/
theorem append (h : Quotes text said) {s : ι → String}
    (hs : ∀ i j, s i = s j := by exact fun _ _ => rfl) : Quotes (fun i => text i ++ s i) said := by
  obtain ⟨before, after, htext⟩ := h
  rcases isEmpty_or_nonempty ι with hι | ⟨⟨j⟩⟩
  · exact ⟨"", "", fun i => isEmptyElim i⟩
  · exact ⟨before, after ++ s j, fun i => by simp only [htext, hs i j, String.append_assoc]⟩

/-- What is the same in the whole family may stand before. -/
theorem prepend (h : Quotes text said) {s : ι → String}
    (hs : ∀ i j, s i = s j := by exact fun _ _ => rfl) : Quotes (fun i => s i ++ text i) said := by
  obtain ⟨before, after, htext⟩ := h
  rcases isEmpty_or_nonempty ι with hι | ⟨⟨j⟩⟩
  · exact ⟨"", "", fun i => isEmptyElim i⟩
  · exact ⟨s j ++ before, after, fun i => by simp only [htext, hs i j, String.append_assoc]⟩

theorem in_spaced (h : Quotes text said) : Quotes (fun i => spaced (text i)) said :=
  (h.prepend (s := fun _ => " ")).congr fun i => by
    rw [spaced, if_neg (by rw [String.isEmpty_iff]; exact h.ne_empty i)]

theorem in_labelled (lead : String) (h : ∀ i, said i ≠ "") :
    Quotes (fun i => labelled lead (some (said i))) said :=
  ((of_quote said).prepend (s := fun _ => lead)).congr fun i => by
    have hgiven : given (some (said i)) = some (said i) := by
      rw [given, Option.filter_some, if_pos (by simp [h i])]
    rw [labelled, hgiven]

section Lists

variable (h : Quotes text said) (xs ys : List String)

include h

theorem in_join : Quotes (fun i => String.join (xs ++ text i :: ys)) said := by
  simp only [String.join_append, String.join_cons]
  exact h.append.prepend

theorem in_intercalate (separator : String) :
    Quotes (fun i => separator.intercalate (xs ++ text i :: ys)) said := by
  induction xs with
  | nil =>
    cases ys with
    | nil => exact h.congr fun i => by rw [List.nil_append, String.intercalate_singleton]
    | cons y ys =>
      simp only [List.nil_append, String.intercalate_cons_cons]
      exact h.append.append
  | cons x xs ih =>
    refine (ih.prepend (s := fun _ => x ++ separator)).congr fun i => ?_
    cases xs <;> simp only [List.cons_append, List.nil_append, String.intercalate_cons_cons]

theorem in_commaLines (newline margin : String) :
    Quotes (fun i => commaLines newline margin (xs ++ text i :: ys)) said := by
  have hitem : Quotes (fun i => margin ++ text i) said := h.prepend
  induction xs with
  | nil =>
    cases ys with
    | nil => exact hitem
    | cons y ys => exact hitem.append.append.append
  | cons x xs ih =>
    refine (ih.prepend (s := fun _ => margin ++ x ++ "," ++ newline)).congr fun i => ?_
    cases xs <;> rfl

theorem in_bracketed (opening closing newline : String) (indent : Int) (inline : Bool) :
    Quotes (fun i => bracketed opening closing newline indent inline (xs ++ text i :: ys))
      said := by
  have hitems : ∀ i, (xs ++ text i :: ys).isEmpty = false := by simp
  unfold bracketed
  simp only [hitems, Bool.false_eq_true, if_false]
  cases inline with
  | true => exact (h.in_intercalate xs ys ", ").prepend.append.append
  | false => exact (h.in_commaLines xs ys newline (pad (indent + 2))).prepend.append.append.append

end Lists

end Quotes

/-! ## Values -/

/-- The values of a family differ in what they say between quotes. A decimal or a truth value of the
metadata says what it would be written as elsewhere. -/
inductive ValuePlace : (ι → Value) → (ι → String) → Prop
  | text (v : Value) (said : ι → String) (hkind : v.kind = .string) :
    ValuePlace (fun i => { v with raw := said i }) said
  | literal (v : Value) (raw : ι → String) (hkind : v.kind = .decimal ∨ v.kind = .bool)
      (hmetadata : v.metadata = true) (hfault : ∀ i, { v with raw := raw i }.fault? = none) :
    ValuePlace (fun i => { v with raw := raw i })
      fun i => { v with raw := raw i, metadata := false }.render

theorem Value.render_of_metadata {v : Value} (hkind : v.kind = .decimal ∨ v.kind = .bool)
    (hmetadata : v.metadata = true) (hfault : v.fault? = none) :
    v.render = quote { v with metadata := false }.render := by
  have htakes := fault?_eq_none_iff.1 hfault
  unfold render
  rcases hkind with hkind | hkind
  · rw [hkind] at htakes ⊢
    obtain ⟨n, hnormal, -⟩ := exists_numeral_of_takes htakes
    dsimp only
    rw [hnormal, hmetadata]
    exact (quote_of_isLiteral (n.isLiteral_text true)).symm
  · rw [hkind] at htakes ⊢
    dsimp only
    rw [hmetadata]
    exact (quote_of_isLiteral (isLiteral_of_truth htakes)).symm

namespace ValuePlace

variable {v : ι → Value} {said : ι → String} (h : ValuePlace v said)

include h

theorem quotes : Quotes (fun i => (v i).render) said := by
  cases h with
  | text v said hkind =>
    refine (Quotes.of_quote said).congr fun i => ?_
    rw [Value.render, hkind]
  | literal v raw hkind hmetadata hfault =>
    exact (Quotes.of_quote _).congr fun i => Value.render_of_metadata hkind hmetadata (hfault i)

theorem quotes_assignment : Quotes (fun i => (v i).assignment) said := by
  refine Quotes.prepend h.quotes (s := fun i => (v i).name ++ "=") ?_
  cases h <;> exact fun _ _ => rfl

theorem quotes_list (vs ws : ValueList) (newline : String) (indent : Int) (inline : Bool) :
    Quotes (fun i => renderProperties newline indent inline (vs ++ v i :: ws)) said := by
  simp only [renderProperties, List.map_append, List.map_cons]
  exact h.quotes_assignment.in_bracketed _ _ _ _ _ _ _

end ValuePlace

/-! ## Devices -/

section Devices

variable (o : LayoutOptions)

/-- The endpoints of a family are written, and differ in what they say between quotes. An empty
label is not written, here and in the other entities. -/
inductive EndpointPlace : (ι → Endpoint) → (ι → String) → Prop
  | label (e : Endpoint) (said : ι → String) (hsaid : ∀ i, said i ≠ "")
      (hwritten : e.properties ≠ [] ∨ o.includeDefaultEndpoints = true) :
    EndpointPlace (fun i => { e with displayName := some (said i) }) said
  | property (e : Endpoint) (vs ws : ValueList) {v : ι → Value} {said : ι → String}
      (hv : ValuePlace v said) :
    EndpointPlace (fun i => { e with properties := vs ++ v i :: ws }) said

/-- The devices of a family differ in what they say between quotes. -/
inductive DevicePlace : (ι → Device) → (ι → String) → Prop
  | label (d : Device) (said : ι → String) (hsaid : ∀ i, said i ≠ "") :
    DevicePlace (fun i => { d with displayName := some (said i) }) said
  | location (d : Device) (said : ι → String) (hsaid : ∀ i, said i ≠ "") :
    DevicePlace (fun i => { d with location := some (said i) }) said
  | property (d : Device) (vs ws : ValueList) {v : ι → Value} {said : ι → String}
      (hv : ValuePlace v said) :
    DevicePlace (fun i => { d with properties := vs ++ v i :: ws }) said
  | endpoint (d : Device) (es fs : List Endpoint) {e : ι → Endpoint} {said : ι → String}
      (he : EndpointPlace o e said) :
    DevicePlace (fun i => { d with endpoints := es ++ e i :: fs }) said

/-- The containers of a family differ in what they say between quotes. -/
inductive ContainerPlace : (ι → Container) → (ι → String) → Prop
  | label (k : Container) (said : ι → String) (hsaid : ∀ i, said i ≠ "") :
    ContainerPlace (fun i => { k with displayName := some (said i) }) said
  | location (k : Container) (said : ι → String) (hsaid : ∀ i, said i ≠ "") :
    ContainerPlace (fun i => { k with location := some (said i) }) said
  | property (k : Container) (vs ws : ValueList) {v : ι → Value} {said : ι → String}
      (hv : ValuePlace v said) :
    ContainerPlace (fun i => { k with properties := vs ++ v i :: ws }) said
  | child (k : Container) (ds es : List Device) {d : ι → Device} {said : ι → String}
      (hd : DevicePlace o d said) :
    ContainerPlace (fun i => { k with children := ds ++ d i :: es }) said

variable {o} {said : ι → String}

theorem Endpoint.render_of_written {e : Endpoint}
    (h : e.properties ≠ [] ∨ o.includeDefaultEndpoints = true) (indent : Int) :
    e.render o indent =
      pad indent ++ e.displayKind ++ " " ++ e.declaredType ++ " : " ++ e.id ++
        labelled " " e.displayName ++
        spaced (renderProperties o.newline indent o.endpointPropertiesInline e.properties) ++
        o.newline := by
  have hwritten : ¬(e.properties.isEmpty && !o.includeDefaultEndpoints) = true := by
    simp only [Bool.and_eq_true, List.isEmpty_iff, Bool.not_eq_true', not_and, Bool.not_eq_false]
    exact h.neg_resolve_left
  rw [render, if_neg hwritten]

theorem EndpointPlace.quotes {e : ι → Endpoint} (h : EndpointPlace o e said) (indent : Int) :
    Quotes (fun i => (e i).render o indent) said := by
  cases h with
  | label e said hsaid hwritten =>
    refine Quotes.congr ?_ fun i => Endpoint.render_of_written
      (e := { e with displayName := some (said i) }) hwritten indent
    exact (Quotes.in_labelled " " hsaid).prepend.append.append
  | property e vs ws hv =>
    refine Quotes.congr ?_ fun i => Endpoint.render_of_written
      (e := { e with properties := vs ++ _ :: ws }) (.inl (by simp)) indent
    exact (hv.quotes_list vs ws _ _ _).in_spaced.prepend.append

theorem EndpointPlace.quotes_block {e : ι → Endpoint} (h : EndpointPlace o e said)
    (es fs : List Endpoint) (indent : Int) :
    Quotes (fun i => renderEndpoints o indent (es ++ e i :: fs)) said := by
  have hline := h.quotes (indent + 4)
  -- The line at the place is not empty, so it stays where the empty lines are left out.
  have hlines : ∀ i, ((es ++ e i :: fs).map (Endpoint.render o (indent + 4))).filter (!·.isEmpty) =
      (es.map (Endpoint.render o (indent + 4))).filter (!·.isEmpty) ++
        (e i).render o (indent + 4) ::
          (fs.map (Endpoint.render o (indent + 4))).filter (!·.isEmpty) := by
    intro i
    rw [List.map_append, List.map_cons, List.filter_append, List.filter_cons_of_pos]
    simp [hline.ne_empty i]
  have hsome : ∀ i, (((es ++ e i :: fs).map (Endpoint.render o (indent + 4))).filter
      (!·.isEmpty)).isEmpty = false := by
    intro i
    rw [hlines]
    simp
  simp only [renderEndpoints, hsome, Bool.false_eq_true, if_false]
  simp only [hlines]
  exact (hline.in_join _ _).prepend.append.append

theorem DevicePlace.quotes {d : ι → Device} (h : DevicePlace o d said) (indent : Int)
    (isChild : Bool) : Quotes (fun i => (d i).render o indent isChild) said := by
  unfold Device.render
  -- A device is written in parts, and only the one with the place in it depends on what is said.
  cases h with
  | label d said hsaid =>
    exact (Quotes.in_labelled " " hsaid).prepend.append.append.append.append.append
  | location d said hsaid =>
    exact (Quotes.in_labelled " @ " hsaid).prepend.append.append.append.append
  | property d vs ws hv => exact (hv.quotes_list vs ws _ _ _).in_spaced.prepend.append.append.append
  | endpoint d es fs he => exact (he.quotes_block es fs indent).prepend.append.append

theorem DevicePlace.quotes_block {d : ι → Device} (h : DevicePlace o d said)
    (ds es : List Device) : Quotes (fun i => renderChildren o (ds ++ d i :: es)) said := by
  have hsome : ∀ i, (ds ++ d i :: es).isEmpty = false := by simp
  simp only [renderChildren, hsome, Bool.false_eq_true, if_false, List.map_append, List.map_cons]
  exact ((h.quotes 2 true).in_join _ _).prepend.append

theorem ContainerPlace.quotes {k : ι → Container} (h : ContainerPlace o k said) :
    Quotes (fun i => (k i).render o) said := by
  unfold Container.render
  cases h with
  | label k said hsaid =>
    exact (Quotes.in_labelled " " hsaid).prepend.append.append.append.append.append
  | location k said hsaid =>
    exact (Quotes.in_labelled " @ " hsaid).prepend.append.append.append.append
  | property k vs ws hv => exact (hv.quotes_list vs ws _ _ _).in_spaced.prepend.append.append.append
  | child k ds es hd => exact (hd.quotes_block ds es).prepend.append.append

theorem DevicePlace.namespaceId_eq {d : ι → Device} (h : DevicePlace o d said) (i j : ι) :
    (d i).namespaceId = (d j).namespaceId := by
  cases h <;> rfl

theorem ContainerPlace.namespaceId_eq {k : ι → Container} (h : ContainerPlace o k said) (i j : ι) :
    (k i).namespaceId = (k j).namespaceId := by
  cases h <;> rfl

end Devices

/-! ## Variables -/

section Variables

/-- The entries of a family differ in what they say between quotes. -/
inductive EntryPlace : (ι → Entry) → (ι → String) → Prop
  | endpointId (l : Link) (said : ι → String) :
    EntryPlace (fun i => .link { l with endpointId := said i }) said
  | linkProperty (l : Link) (vs ws : ValueList) {v : ι → Value} {said : ι → String}
      (hv : ValuePlace v said) :
    EntryPlace (fun i => .link { l with properties := vs ++ v i :: ws }) said
  | value (a : Note) (said : ι → String) :
    EntryPlace (fun i => .note { a with value := said i }) said
  | noteProperty (a : Note) (vs ws : ValueList) {v : ι → Value} {said : ι → String}
      (hv : ValuePlace v said) :
    EntryPlace (fun i => .note { a with properties := vs ++ v i :: ws }) said

/-- The variables of a family differ in what they say between quotes. The parameters of a count are
said in one text. -/
inductive VariablePlace : (ι → Variable) → (ι → String) → Prop
  | label (v : Variable) (said : ι → String) (hsaid : ∀ i, said i ≠ "") :
    VariablePlace (fun i => { v with displayName := some (said i) }) said
  | tag (v : Variable) (said : ι → String) (ts us : List String) :
    VariablePlace (fun i => { v with tags := ts ++ said i :: us }) said
  | count (v : Variable) (parameters : ι → List String) (hparameters : ∀ i, parameters i ≠ [])
      {base function : String} (hbase : given v.baseType = some base)
      (hfunction : given v.function = some function) (hcount : Text.upper function = "COUNT") :
    VariablePlace (fun i => { v with parameters := parameters i })
      fun i => ",".intercalate (parameters i)
  | entry (v : Variable) (es fs : List Entry) {e : ι → Entry} {said : ι → String}
      (he : EntryPlace e said) :
    VariablePlace (fun i => { v with entries := es ++ e i :: fs }) said

variable {said : ι → String}

theorem EntryPlace.quotes {e : ι → Entry} (h : EntryPlace e said) (newline : String)
    (indent : Int) (inline : Bool) :
    Quotes (fun i => (e i).render newline indent inline) said := by
  cases h with
  | endpointId l said => exact (Quotes.of_quote said).prepend.append
  | linkProperty l vs ws hv => exact (hv.quotes_list vs ws _ _ _).in_spaced.prepend
  | value a said => exact (Quotes.of_quote said).prepend.append
  | noteProperty a vs ws hv => exact (hv.quotes_list vs ws _ _ _).in_spaced.prepend

theorem Variable.groupSuffix_of_count {v : Variable} {base function : String}
    (hbase : given v.baseType = some base) (hfunction : given v.function = some function)
    (hcount : Text.upper function = "COUNT") (hparameters : v.parameters ≠ []) :
    v.groupSuffix =
      ":" ++ base ++ (":" ++ function ++ quote (",".intercalate v.parameters)) := by
  rw [groupSuffix, hbase, hfunction]
  dsimp only
  rw [renderParameters, if_neg (by simpa using hparameters), hcount]
  rfl

theorem VariablePlace.quotes {v : ι → Variable} (h : VariablePlace v said) (o : LayoutOptions) :
    Quotes (fun i => (v i).render o) said := by
  unfold Variable.render
  cases h with
  | label v said hsaid =>
    exact (Quotes.in_labelled " " hsaid).prepend.append.append.append.append.append
  | tag v said ts us =>
    have htags : ∀ i, (ts ++ said i :: us).isEmpty = false := by simp
    simp only [htags, Bool.false_eq_true, if_false, List.map_append, List.map_cons]
    exact ((Quotes.of_quote said).in_intercalate _ _ ", ").prepend.append.prepend.append.append
  | count v parameters hparameters hbase hfunction hcount =>
    have hsuffix : Quotes (fun i => { v with parameters := parameters i }.groupSuffix)
        fun i => ",".intercalate (parameters i) :=
      (Quotes.of_quote _).prepend.prepend.congr fun i =>
        Variable.groupSuffix_of_count hbase hfunction hcount (hparameters i)
    exact hsuffix.prepend.append.append.append.append.append.append.append.append
  | entry v es fs he =>
    simp only [List.map_append, List.map_cons]
    exact ((he.quotes _ _ _).in_bracketed _ _ _ _ _ _ _).in_spaced.prepend.append

theorem VariablePlace.sortKey_eq {v : ι → Variable} (h : VariablePlace v said) (i j : ι) :
    (v i).sortKey = (v j).sortKey := by
  cases h <;> rfl

end Variables

/-! ## Streams -/

section Streams

variable (o : LayoutOptions) (c : Catalog) {said : ι → String}

theorem ContainerPlace.quotes_stream {k : ι → Container} (h : ContainerPlace o k said)
    (ks ls : List Container) :
    Quotes (fun i => devicesText o { c with containers := ks ++ k i :: ls }) said := by
  obtain ⟨us, vs, hsort⟩ := exists_mergeSort_eq
    (fun a b => textLE_iff (Container.namespaceId a) (Container.namespaceId b)) h.namespaceId_eq
    ks ls
  simp only [devicesText, sortedDeviceEntries, hsort, List.map_append, List.map_cons,
    List.append_assoc, List.cons_append]
  exact h.quotes.in_join _ _

theorem DevicePlace.quotes_stream {d : ι → Device} (h : DevicePlace o d said)
    (ds es : List Device) :
    Quotes (fun i => devicesText o { c with devices := ds ++ d i :: es }) said := by
  obtain ⟨us, vs, hsort⟩ := exists_mergeSort_eq
    (fun a b => textLE_iff (Device.namespaceId a) (Device.namespaceId b)) h.namespaceId_eq ds es
  simp only [devicesText, sortedDeviceEntries, hsort, List.map_append, List.map_cons]
  simp only [← List.append_assoc]
  exact (h.quotes 0 false).in_join _ _

theorem VariablePlace.quotes_stream {v : ι → Variable} (h : VariablePlace v said)
    (us ws : List Variable) :
    Quotes (fun i => variablesText o { c with vars := us ++ v i :: ws }) said := by
  obtain ⟨us', ws', hsort⟩ := exists_mergeSort_eq variableLE_iff h.sortKey_eq us ws
  simp only [variablesText, sortedVariables, hsort, List.map_append, List.map_cons]
  exact (h.quotes o).in_intercalate _ _ _

end Streams

/-- At every place of a quoted text, it is read in the text of the entity and in the stream. -/
structure ReadsQuotedTexts (o : LayoutOptions) : Prop where
  value : ∀ {ι : Type} {v : ι → Value} {said : ι → String}, ValuePlace v said →
    ReadAtPlace (fun i => (v i).render) said
  endpoint : ∀ {ι : Type} {e : ι → Endpoint} {said : ι → String}, EndpointPlace o e said →
    ∀ indent, ReadAtPlace (fun i => (e i).render o indent) said
  device : ∀ {ι : Type} {d : ι → Device} {said : ι → String}, DevicePlace o d said →
    ∀ indent isChild, ReadAtPlace (fun i => (d i).render o indent isChild) said
  container : ∀ {ι : Type} {k : ι → Container} {said : ι → String}, ContainerPlace o k said →
    ReadAtPlace (fun i => (k i).render o) said
  entry : ∀ {ι : Type} {e : ι → Entry} {said : ι → String}, EntryPlace e said →
    ∀ newline indent inline, ReadAtPlace (fun i => (e i).render newline indent inline) said
  var : ∀ {ι : Type} {v : ι → Variable} {said : ι → String}, VariablePlace v said →
    ReadAtPlace (fun i => (v i).render o) said
  container_stream : ∀ {ι : Type} {k : ι → Container} {said : ι → String}, ContainerPlace o k said →
    ∀ (c : Catalog) (ks ls : List Container),
      ReadAtPlace (fun i => devicesText o { c with containers := ks ++ k i :: ls }) said
  device_stream : ∀ {ι : Type} {d : ι → Device} {said : ι → String}, DevicePlace o d said →
    ∀ (c : Catalog) (ds es : List Device),
      ReadAtPlace (fun i => devicesText o { c with devices := ds ++ d i :: es }) said
  var_stream : ∀ {ι : Type} {v : ι → Variable} {said : ι → String}, VariablePlace v said →
    ∀ (c : Catalog) (us ws : List Variable),
      ReadAtPlace (fun i => variablesText o { c with vars := us ++ v i :: ws }) said

/-- A quoted text has its backslashes and then its quotes escaped. Read with anything behind it, it
says the text and leaves what is behind it, so no two texts are quoted alike, and each text that is
quoted in an entity or in a stream is read at its place. -/
theorem quoted_texts_read_back :
    (∀ s : String, (quote s).toList =
      '"' :: replaced '"' ['\\', '"'] (replaced '\\' ['\\', '\\'] s.toList) ++ ['"']) ∧
    (∀ s rest : String, unquote? (quote s ++ rest).toList = some (s.toList, rest.toList)) ∧
    Function.Injective quote ∧
    ∀ o : LayoutOptions, ReadsQuotedTexts o := by
  refine ⟨toList_quote, fun s rest => ?_, quote_injective, fun o => ?_⟩
  · rw [String.toList_append, unquote?_quote_append]
  · exact {
      value := fun h => h.quotes.readAtPlace
      endpoint := fun h indent => (h.quotes indent).readAtPlace
      device := fun h indent isChild => (h.quotes indent isChild).readAtPlace
      container := fun h => h.quotes.readAtPlace
      entry := fun h newline indent inline => (h.quotes newline indent inline).readAtPlace
      var := fun h => (h.quotes o).readAtPlace
      container_stream := fun h c ks ls => (h.quotes_stream o c ks ls).readAtPlace
      device_stream := fun h c ds es => (h.quotes_stream o c ds es).readAtPlace
      var_stream := fun h c us ws => (h.quotes_stream o c us ws).readAtPlace }

def hallLamp : Device where
  namespaceId := "hue"
  typeId := "lamp"
  containerId := some "b1"
  deviceId := "l1"

def hall : Container where
  namespaceId := "hue"
  typeId := "bridge"
  containerId := "b1"
  displayName := some "Hall"

def hallLights : Variable where
  dataType := "Group"
  name := "Lights"
  baseType := some "Switch"
  function := some "Count"
  tags := ["all"]

/-- A bridge whose lamp has a text among its properties. -/
def hallSaying (s : String) : Catalog where
  containers := [{ hall with
    children := [{ hallLamp with properties := [{ name := "mount", raw := s }] }] }]

/-- A group that counts its lights by two parameters. -/
def lightsSaying (s : String) : Catalog where
  vars := [{ hallLights with parameters := ["ON", s] }]

/-- A text that ends in a backslash and a quote is read in both streams. -/
theorem quoted_texts_read_back_of_hall :
    ReadAtPlace (fun s => devicesText {} (hallSaying s)) (fun s => s) ∧
      ReadAtPlace (fun s => variablesText {} (lightsSaying s))
        (fun s => ",".intercalate ["ON", s]) ∧
      variablesText {} (lightsSaying "5\\\"") =
        "Group:Switch:Count" ++ quote "ON,5\\\"" ++ " Lights [ \"all\" ]\r\n" := by
  have hread := quoted_texts_read_back.2.2.2 {}
  refine ⟨?_, ?_, ?_⟩
  · exact hread.container_stream
      (.child hall [] [] (.property hallLamp [] [] (.text { name := "mount", raw := "" } _ rfl)))
      {} [] []
  · exact hread.var_stream
      (.count hallLights (fun s => ["ON", s]) (fun _ => List.cons_ne_nil _ _) rfl rfl
        (by decide)) {} [] []
  · simp only [variablesText, sortedVariables, lightsSaying, List.mergeSort_singleton]
    decide

end HomeCatalog
