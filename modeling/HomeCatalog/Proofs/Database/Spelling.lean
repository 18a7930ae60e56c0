import HomeCatalog.Database.Load
import HomeCatalog.Proofs.Text.Split
import HomeCatalog.Proofs.Traversal

/-!
# Spellings of a document

Databases spell the same records in more than one way. A record may be wrapped in an object with its
class beside it, an id may be a text or the list of its segments, and a configuration may stand one
level deeper. `SpelledDocument` relates two documents that differ in such choices, made anew for
each record and each of its members. Both come to the same records, or to the same fault
(`recordsOf_eq`).

A member is found in both spellings under one name, and never null in one of them only
(`lookup_related`, `SpelledMember.null_iff`). So whatever is the first member given under some names
is so in both, and a reader that makes no difference between two spellings of it reads the same
(`first_congr`).
-/

namespace HomeCatalog.Database

/-! ## Two spellings -/

/-- The names of members that hold ids. -/
def idNames : List String := ["UID", "uid", "bridgeUID", "bridgeUid", "channelUID", "key"]

/-- The segments of an id, between its colons. -/
def segmentsOf (uid : Letters) : List Letters :=
  (Text.pieces (.char ':') uid.list).map .mk

/-- An id as the list of its segments. -/
def segmented (uid : Letters) : Json :=
  .object [("segments", .list ((segmentsOf uid).map .text))]

/-- A configuration one level deeper, as older databases keep it. -/
def nested (ms : Members) : Members :=
  [("properties", .object ms)]

/-- Two lists of members with the same names, and values that are related. -/
def SpelledBy (R : Letters → Json → Json → Prop) (ms ms' : Members) : Prop :=
  List.Forall₂ (fun m m' => m.1 = m'.1 ∧ R m.1 m.2 m'.2) ms ms'

/-- Two spellings of a value in an endpoint, by the name of its member. -/
inductive SpelledValue : Letters → Json → Json → Prop
  | same (name : Letters) (j : Json) : SpelledValue name j j
  | id {name : String} (uid : Letters) : name ∈ idNames →
    SpelledValue name (.text uid) (segmented uid)
  | configuration {ms : Members} : (∀ inner, ms ≠ nested inner) →
    SpelledValue "configuration" (.object ms) (.object (nested ms))

/-- Two spellings of an endpoint. -/
inductive SpelledEndpoint : Json → Json → Prop
  | same (j : Json) : SpelledEndpoint j j
  | object {ms ms' : Members} : SpelledBy SpelledValue ms ms' →
    SpelledEndpoint (.object ms) (.object ms')

/-- Two spellings of a value in a record, by the name of its member. -/
inductive SpelledMember : Letters → Json → Json → Prop
  | value {name : Letters} {j j' : Json} : SpelledValue name j j' → SpelledMember name j j'
  | channels {items items' : List Json} : List.Forall₂ SpelledEndpoint items items' →
    SpelledMember "channels" (.list items) (.list items')

/-- Two spellings of a record, with whatever stands around it. -/
inductive SpelledRecord : Members → Members → Prop
  | bare {ms ms' : Members} : SpelledBy SpelledMember ms ms' → SpelledRecord ms ms'
  | wrapped {ms ms' : Members} (cls : Json) :
    (∀ inner, ms.lookup ("value" : Letters) ≠ some (.object inner)) →
    SpelledBy SpelledMember ms ms' →
    SpelledRecord ms [("class", cls), ("value", .object ms')]
  | inside {before after ms ms' : Members} : ("value" : Letters) ∉ before.map Prod.fst →
    SpelledBy SpelledMember ms ms' →
    SpelledRecord (before ++ (("value" : Letters), .object ms) :: after)
      (before ++ (("value" : Letters), .object ms') :: after)

/-- Two spellings of what a document holds under a name. -/
inductive SpelledEntry : Json → Json → Prop
  | same (j : Json) : SpelledEntry j j
  | record {ms ms' : Members} : SpelledRecord ms ms' → SpelledEntry (.object ms) (.object ms')

/-- Two spellings of a document. -/
inductive SpelledDocument : Json → Json → Prop
  | same (j : Json) : SpelledDocument j j
  | object {ms ms' : Members} : SpelledBy (fun _ => SpelledEntry) ms ms' →
    SpelledDocument (.object ms) (.object ms')

/-! ## Members -/

section Members

variable {R R' : Letters → Json → Json → Prop} {ms ms' : Members}

theorem spelledBy_refl (h : ∀ name j, R name j j) (ms : Members) : SpelledBy R ms ms :=
  List.forall₂_same.2 fun m _ => ⟨rfl, h m.1 m.2⟩

theorem SpelledBy.mono (h : SpelledBy R ms ms') (hR : ∀ name j j', R name j j' → R' name j j') :
    SpelledBy R' ms ms' :=
  h.imp fun _ _ hm => ⟨hm.1, hR _ _ _ hm.2⟩

theorem first_cons_of_null {name : String} (names : List String)
    (h : ms.lookup (name : Letters) = none ∨ ms.lookup (name : Letters) = some .null) :
    first ms (name :: names) = first ms names := by
  rcases h with h | h <;> simp [first, h]

theorem first_cons_of_ne_null {name : String} {j : Json} (names : List String)
    (h : ms.lookup (name : Letters) = some j) (hj : j ≠ .null) : first ms (name :: names) = j := by
  unfold first
  rw [List.findSome?_cons, h]
  cases j with
  | null => exact absurd rfl hj
  | _ => rfl

theorem member_eq_first (ms : Members) (name : String) : member ms name = first ms [name] := by
  cases h : ms.lookup (name : Letters) with
  | none =>
    rw [first_cons_of_null _ (.inl h), member, h]
    rfl
  | some j =>
    rw [member, h]
    cases j with
    | null =>
      rw [first_cons_of_null _ (.inr h)]
      rfl
    | _ => exact (first_cons_of_ne_null _ h nofun).symm

/-- What is given first under some names reads the same in both spellings, for a reader that makes
no difference between two spellings of it. -/
theorem first_congr {α : Type} {f : Json → α} {names : List String} (h : SpelledBy R ms ms')
    (hnull : ∀ name j j', R name j j' → (j = .null ↔ j' = .null))
    (hf : ∀ name ∈ names, ∀ j j', R (name : String) j j' → f j = f j') :
    f (first ms names) = f (first ms' names) := by
  induction names with
  | nil => rfl
  | cons name names ih =>
    obtain ⟨hname, hnames⟩ := List.forall_mem_cons.1 hf
    have hrest := ih hnames
    -- A null counts as no member, so both spellings go on to the next name together.
    rcases lookup_related h (name : Letters) with ⟨hx, hx'⟩ | ⟨j, j', hx, hx', hj⟩
    · rw [first_cons_of_null _ (.inl hx), first_cons_of_null _ (.inl hx'), hrest]
    · by_cases hj₀ : j = .null
      · rw [first_cons_of_null _ (.inr (hj₀ ▸ hx)),
          first_cons_of_null _ (.inr ((hnull _ _ _ hj).1 hj₀ ▸ hx')), hrest]
      · rw [first_cons_of_ne_null _ hx hj₀,
          first_cons_of_ne_null _ hx' fun h => hj₀ ((hnull _ _ _ hj).2 h)]
        exact hname _ _ hj

end Members

/-! ## Values -/

theorem uidOf_segmented (uid : Letters) : uidOf (segmented uid) = uid.string := by
  have hsegments : (segmentsOf uid).map (fun s => s.string.toList) =
      (Text.pieces (.char ':') uid.list).map (List.map Letter.toChar) := by
    rw [segmentsOf, List.map_map]
    exact List.map_congr_left fun p _ => String.toList_ofList
  have hjoined := Text.joined_map Letter.toChar (.char ':') (Text.pieces (.char ':') uid.list)
  rw [Text.joined_pieces, ← hsegments] at hjoined
  simp only [uidOf, segmented, List.lookup_cons_self, Text.join, List.map_map]
  exact congrArg String.ofList hjoined

/-- The names of members that have more than one spelling. -/
def spelledNames : List String :=
  "configuration" :: "channels" :: idNames

namespace SpelledMember

variable {name : Letters} {n : String} {j j' : Json}

theorem null_iff (h : SpelledMember name j j') : j = .null ↔ j' = .null := by
  rcases h with (_ | _ | _) | _ <;> simp [segmented]

theorem eq (h : SpelledMember n j j') (hname : n ∉ spelledNames) : j = j' := by
  generalize hn : Letters.ofString n = name at h
  rcases h with (_ | ⟨_, hid⟩ | _) | _
  · rfl
  · rw [← Letters.ofString_inj.1 hn] at hid
    exact absurd (List.mem_cons_of_mem _ (List.mem_cons_of_mem _ hid)) hname
  · exact absurd (Letters.ofString_inj.1 hn ▸ List.mem_cons_self) hname
  · exact absurd (Letters.ofString_inj.1 hn ▸ List.mem_cons_of_mem _ List.mem_cons_self) hname

theorem uidOf_eq (h : SpelledMember n j j') (hname : n ∈ idNames) : uidOf j = uidOf j' := by
  generalize hn : Letters.ofString n = name at h
  rcases h with (_ | ⟨uid, _⟩ | _) | _
  · rfl
  · exact (uidOf_segmented uid).symm
  · exact absurd (Letters.ofString_inj.1 hn ▸ hname) (by decide)
  · exact absurd (Letters.ofString_inj.1 hn ▸ hname) (by decide)

theorem configurationMembers_eq {ms : Members}
    (h : ∀ inner, ms ≠ nested inner) : configurationMembers ms = ms := by
  unfold configurationMembers
  split
  · split
    · next hname => exact absurd (congrArg (fun name => [(name, _)]) hname) (h _)
    · rfl
  · rfl

theorem configurationMembers_nested (ms : Members) : configurationMembers (nested ms) = ms := by
  rw [nested, configurationMembers, if_pos rfl]

theorem propertiesOf_eq (h : SpelledMember "configuration" j j') :
    propertiesOf j = propertiesOf j' := by
  generalize hn : Letters.ofString "configuration" = name at h
  rcases h with (_ | ⟨_, hid⟩ | hms) | _
  · rfl
  · exact absurd (Letters.ofString_inj.1 hn ▸ hid) (by decide)
  · rw [propertiesOf, propertiesOf, configurationMembers_eq hms, configurationMembers_nested]
  · exact absurd (Letters.ofString_inj.1 hn) (by decide)

theorem itemsOf_spelled (h : SpelledMember "channels" j j') :
    List.Forall₂ SpelledEndpoint (itemsOf j) (itemsOf j') := by
  generalize hn : Letters.ofString "channels" = name at h
  rcases h with (_ | ⟨_, hid⟩ | _) | hitems
  · exact List.forall₂_same.2 fun j _ => .same j
  · exact absurd (Letters.ofString_inj.1 hn ▸ hid) (by decide)
  · exact absurd (Letters.ofString_inj.1 hn) (by decide)
  · exact hitems

end SpelledMember

section Record

variable {ms ms' : Members} (h : SpelledBy SpelledMember ms ms')

include h

theorem uidOf_first_eq (names : List String) (hnames : ∀ n ∈ names, n ∈ idNames) :
    uidOf (first ms names) = uidOf (first ms' names) :=
  first_congr h (fun _ _ _ => SpelledMember.null_iff) fun _ hn _ _ hj => hj.uidOf_eq (hnames _ hn)

theorem first_eq (names : List String) (hnames : ∀ n ∈ names, n ∉ spelledNames) :
    first ms names = first ms' names :=
  first_congr (f := id) h (fun _ _ _ => SpelledMember.null_iff) fun _ hn _ _ hj =>
    hj.eq (hnames _ hn)

theorem member_eq (name : String) (hname : name ∉ spelledNames) :
    member ms name = member ms' name := by
  rw [member_eq_first, member_eq_first]
  exact first_eq h [name] (by simpa using hname)

theorem member_spelled (name : String) :
    SpelledMember name (member ms name) (member ms' name) := by
  rcases lookup_related h (name : Letters) with ⟨hx, hx'⟩ | ⟨j, j', hx, hx', hj⟩
  · rw [member, member, hx, hx']
    exact .value (.same _ _)
  · rw [member, member, hx, hx']
    exact hj

theorem propertiesOf_member_eq :
    propertiesOf (member ms "configuration") = propertiesOf (member ms' "configuration") :=
  (member_spelled h "configuration").propertiesOf_eq

end Record

/-! ## Records -/

theorem endpointRecord_eq {j j' : Json} (h : SpelledEndpoint j j') :
    endpointRecord j = endpointRecord j' := by
  cases h with
  | same => rfl
  | @object ms ms' h =>
    have h : SpelledBy SpelledMember ms ms' := h.mono fun _ _ _ => .value
    rw [endpointRecord, endpointRecord, propertiesOf_member_eq h,
      uidOf_first_eq h ["uid", "UID"] (by decide), member_eq h "kind" (by decide),
      first_eq h ["itemType", "acceptedItemType"] (by decide), member_eq h "label" (by decide)]

/-- Makes no difference between two spellings of a record. -/
def SpellingBlind {α : Type} (convert : String → Members → Except Property.DefinitionFault α) :
    Prop :=
  ∀ (name : String) (ms ms' : Members), SpelledBy SpelledMember ms ms' →
    convert name ms = convert name ms'

theorem spellingBlind_deviceRecord : SpellingBlind deviceRecord := by
  intro name ms ms' h
  have hendpoints : (itemsOf (member ms "channels")).mapM endpointRecord =
      (itemsOf (member ms' "channels")).mapM endpointRecord :=
    mapM_congr_of_forall₂
      (((member_spelled h "channels").itemsOf_spelled).imp fun _ _ => endpointRecord_eq)
  rw [deviceRecord, deviceRecord, propertiesOf_member_eq h, hendpoints,
    uidOf_first_eq h ["UID", "uid"] (by decide),
    uidOf_first_eq h ["bridgeUID", "bridgeUid"] (by decide),
    member_eq h "label" (by decide), member_eq h "location" (by decide),
    first_eq h ["isBridge", "bridge"] (by decide)]

theorem spellingBlind_variableRecord : SpellingBlind variableRecord := by
  intro name ms ms' h
  simp only [variableRecord]
  rw [member_eq h "name" (by decide), member_eq h "itemType" (by decide),
    member_eq h "label" (by decide), member_eq h "category" (by decide),
    member_eq h "iconName" (by decide), member_eq h "groupNames" (by decide),
    member_eq h "tags" (by decide), member_eq h "baseItemType" (by decide),
    member_eq h "functionName" (by decide), member_eq h "functionParams" (by decide)]

theorem spellingBlind_linkRecord : SpellingBlind linkRecord := by
  intro name ms ms' h
  rw [linkRecord, linkRecord, propertiesOf_member_eq h,
    uidOf_first_eq h ["channelUID", "uid", "UID"] (by decide), member_eq h "itemName" (by decide)]

theorem spellingBlind_noteRecord : SpellingBlind noteRecord := by
  intro name ms ms' h
  rw [noteRecord, noteRecord, propertiesOf_member_eq h,
    (member_spelled h "key").uidOf_eq (by decide), member_eq h "value" (by decide)]

/-! ## Documents -/

theorem unwrapped_of_object {ms inner : Members}
    (h : ms.lookup ("value" : Letters) = some (.object inner)) : unwrapped ms = inner := by
  rw [unwrapped, h]

theorem unwrapped_of_bare {ms : Members}
    (h : ∀ inner, ms.lookup ("value" : Letters) ≠ some (.object inner)) :
    unwrapped ms = ms := by
  unfold unwrapped
  split
  · next hx => exact absurd hx (h _)
  · rfl

theorem lookup_append_value (before after : Members) (h : ("value" : Letters) ∉ before.map Prod.fst)
    (j : Json) :
    (before ++ (("value" : Letters), j) :: after).lookup ("value" : Letters) = some j := by
  refine List.lookup_eq_some_iff.2 ⟨before, after, rfl, fun m hm => ?_⟩
  rw [bne_iff_ne]
  exact fun hname => h (List.mem_map.2 ⟨m, hm, hname.symm⟩)

/-- Whatever stands around a record is taken away, once. -/
theorem SpelledRecord.unwrapped_spelled {ms ms' : Members} (h : SpelledRecord ms ms') :
    SpelledBy SpelledMember (unwrapped ms) (unwrapped ms') := by
  cases h with
  | bare h =>
    -- No spelling of a member makes an object of the value beside it, or undoes one.
    have hvalue : ms'.lookup ("value" : Letters) = ms.lookup ("value" : Letters) := by
      rcases lookup_related h ("value" : Letters) with ⟨hx, hx'⟩ | ⟨j, j', hx, hx', hj⟩
      · rw [hx, hx']
      · rw [hx, hx', hj.eq (by decide)]
    by_cases hinner : ∃ inner, ms.lookup ("value" : Letters) = some (.object inner)
    · obtain ⟨inner, hinner⟩ := hinner
      rw [unwrapped_of_object hinner, unwrapped_of_object (hvalue.trans hinner)]
      exact spelledBy_refl (fun _ j => .value (.same _ j)) inner
    · have hbare : ∀ inner, ms.lookup ("value" : Letters) ≠ some (.object inner) :=
        fun inner h => hinner ⟨inner, h⟩
      rw [unwrapped_of_bare hbare, unwrapped_of_bare (hvalue ▸ hbare)]
      exact h
  | @wrapped _ ms' cls hbare h =>
    have hvalue : List.lookup ("value" : Letters) [("class", cls), ("value", .object ms')] =
        some (.object ms') :=
      lookup_append_value [("class", cls)] [] (by simp) _
    rw [unwrapped_of_bare hbare, unwrapped_of_object hvalue]
    exact h
  | inside hbefore h =>
    rw [unwrapped_of_object (lookup_append_value _ _ hbefore _),
      unwrapped_of_object (lookup_append_value _ _ hbefore _)]
    exact h

/-- One name, and two spellings of its record. -/
def SpelledUnder (e e' : String × Members) : Prop :=
  e.1 = e'.1 ∧ SpelledBy SpelledMember e.2 e'.2

theorem spelledUnder_refl (e : String × Members) : SpelledUnder e e :=
  ⟨rfl, spelledBy_refl (fun _ j => .value (.same _ j)) e.2⟩

theorem agree_entryOf (label : String) (name : Letters) {j j' : Json} (h : SpelledEntry j j') :
    Agree SpelledUnder (entryOf label (name, j)) (entryOf label (name, j')) := by
  cases h with
  | same j => exact agree_refl spelledUnder_refl _
  | record h => exact .ok ⟨rfl, h.unwrapped_spelled⟩

/-- Two spellings of a document are read as the same names with two spellings of each record, or as
the same fault. -/
theorem agree_entriesOfJson (label : String) {j j' : Json} (h : SpelledDocument j j') :
    Agree (List.Forall₂ SpelledUnder) (entriesOfJson label j) (entriesOfJson label j') := by
  cases h with
  | same j => exact agree_refl (fun _ => List.forall₂_same.2 fun e _ => spelledUnder_refl e) _
  | object h =>
    refine agree_mapM (h.imp ?_)
    rintro ⟨name, j⟩ ⟨_, j'⟩ ⟨rfl, hentry⟩
    exact agree_entryOf label name hentry

/-- Two spellings of a document come to the same records or the same fault. -/
theorem recordsOf_eq {α : Type} {convert : String → Members → Except Property.DefinitionFault α}
    (hconvert : SpellingBlind convert) (label : String) {text text' : String} {j j' : Json}
    (htext : Json.parse text = .ok j) (htext' : Json.parse text' = .ok j')
    (h : SpelledDocument j j') : recordsOf convert label text = recordsOf convert label text' := by
  have hentries := agree_entriesOfJson label h
  simp only [recordsOf, entriesOf, htext, htext']
  generalize entriesOfJson label j = x, entriesOfJson label j' = x' at hentries
  cases hentries with
  | error e => rfl
  | ok hentries =>
    refine congrArg (Except.mapError _) (mapM_congr_of_forall₂ (hentries.imp ?_))
    rintro ⟨name, ms⟩ ⟨_, ms'⟩ ⟨rfl, hms⟩
    exact hconvert name ms ms' hms

end HomeCatalog.Database
