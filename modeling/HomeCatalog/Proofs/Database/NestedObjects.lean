import HomeCatalog.Database.Document
import HomeCatalog.Proofs.Database.Configuration
import HomeCatalog.Proofs.Database.Spelling
import HomeCatalog.Proofs.Json.Equality
import HomeCatalog.Proofs.Json.RoundTrip
import HomeCatalog.Proofs.Layout.Quoted

/-!
# Objects inside configurations

A property holds one text, so an object inside a configuration becomes the text of a document. No
part of it is lost on the way (`nested_object_survives`): the quoted literal is read back as that
text, and the text is read as the object, with texts in place of its decimals. The object may be
anything that a database document holds, because what is read is well-formed, and with a value all
that stands in it (`Json.WellFormed.within`).
-/

namespace HomeCatalog

/-! ## Values inside values -/

namespace Json

/-- The value stands in the other one, at any depth. -/
inductive Within (k : Json) : Json → Prop
  | self : Within k k
  | item {items : List Json} {j : Json} (hmem : j ∈ items) (h : Within k j) : Within k (.list items)
  | member {members : List (Letters × Json)} {m : Letters × Json} (hmem : m ∈ members)
    (h : Within k m.2) : Within k (.object members)

theorem WellFormed.within {j k : Json} (h : j.WellFormed) (hk : k.Within j) : k.WellFormed := by
  induction hk with
  | self => exact h
  | item hmem _ ih =>
    cases h with
    | list hitems => exact ih (hitems _ hmem)
  | member hmem _ ih => exact ih (h.members.2.2 _ hmem)

end Json

namespace Database

/-! ## Members of a configuration -/

/-- The configuration states the member. Older databases keep the members one level deeper, and then
the one member that there is states nothing. -/
inductive Configures : Members → Letters × Json → Prop
  | plain {members : Members} {m : Letters × Json} (hmem : m ∈ members)
    (hplain : ∀ inner, members ≠ nested inner) : Configures members m
  | wrapped {inner : Members} {m : Letters × Json} (hmem : m ∈ inner) : Configures (nested inner) m

theorem Configures.mem {members : Members} {m : Letters × Json} (h : Configures members m) :
    m ∈ configurationMembers members := by
  cases h with
  | wrapped hmem => rwa [SpelledMember.configurationMembers_nested]
  | plain hmem hplain => rwa [SpelledMember.configurationMembers_eq hplain]

section WellFormed

variable {members : Members}

theorem wellFormed_configurationMembers (h : (Json.object members).WellFormed) :
    (Json.object (configurationMembers members)).WellFormed := by
  unfold configurationMembers
  split
  · split
    · exact h.members.2.2 _ List.mem_cons_self
    · exact h
  · exact h

theorem wellFormed_unwrapped (h : (Json.object members).WellFormed) :
    (Json.object (unwrapped members)).WellFormed := by
  unfold unwrapped
  split
  · next inner hinner =>
    obtain ⟨before, after, rfl, -⟩ := List.lookup_eq_some_iff.1 hinner
    exact h.members.2.2 (("value" : Letters), .object inner) (by simp)
  · exact h

end WellFormed

theorem wellFormed_of_mem_entries {label text : String} {entries : List (String × Members)}
    (h : entriesOf label text = .ok entries) {e : String × Members} (he : e ∈ entries) :
    (Json.object e.2).WellFormed := by
  unfold entriesOf at h
  split at h
  · cases h
  · cases h
  · next j hparse =>
    have hj := Json.wellFormed_of_parse hparse
    rw [mapError_eq_ok_iff] at h
    cases j with
    | object members =>
      obtain ⟨m, hm, hentry⟩ := exists_left_of_mem (mapM_eq_ok_iff.1 h) he
      have hmember := hj.members.2.2 m hm
      unfold entryOf at hentry
      split at hentry
      · next inner hinner =>
        cases hentry
        rw [hinner] at hmember
        exact wellFormed_unwrapped hmember
      · cases hentry
    | _ => cases h

/-! ## Properties of objects -/

/-- Where the names are distinct, a name is that of one member. -/
theorem exists_append_of_mem {members : Members} (hnames : (members.map Prod.fst).Nodup)
    {m : Letters × Json} (hmem : m ∈ members) :
    ∃ before after, members = before ++ m :: after ∧ m.1 ∉ (before ++ after).map Prod.fst := by
  obtain ⟨before, after, rfl⟩ := List.append_of_mem hmem
  refine ⟨before, after, rfl, ?_⟩
  rw [List.map_append, List.map_cons, List.perm_middle.nodup_iff, ← List.map_append] at hnames
  exact (List.nodup_cons.1 hnames).1

/-- A property of the kind of texts is written as its text between quotes, and read back from them,
whatever follows. -/
theorem unquote?_render_string (owner : Owner) (metadata : Bool) (name raw : String)
    (rest : List Char) :
    ∃ v, valueOfProperty owner metadata ⟨name, "String", raw⟩ = .ok v ∧
      unquote? (v.render.toList ++ rest) = some (raw.toList, rest) := by
  obtain ⟨hfits, hrender⟩ := fits_string name metadata raw
  have hvalue : (⟨name, "String", raw⟩ : Property).valueIn metadata =
      ⟨name, raw, .string, metadata⟩ := valueIn_of_declared? declared?_names.2.2.2
  refine ⟨_, valueOfProperty_eq_ok_iff.2 ⟨hvalue.symm, hvalue ▸ hfits⟩, ?_⟩
  rw [hrender, unquote?_quote_append]

/-- An object inside a configuration of a database document is the text of one property, at the
place of its member. The text is read as the object, with texts in place of its decimals, and the
literal that is written for the property is read back as the text. -/
theorem nested_object_survives {label text : String} {entries : List (String × Members)}
    (hentries : entriesOf label text = .ok entries) {e : String × Members} (he : e ∈ entries)
    {configuration : Members} (hwithin : (Json.object configuration).Within (.object e.2))
    {key : Letters} {o : Members} (hmember : Configures configuration (key, .object o)) :
    ∃ before after raw,
      configurationMembers configuration = before ++ (key, .object o) :: after ∧
      key ∉ (before ++ after).map Prod.fst ∧
      propertiesOf (.object configuration) = .ok (before.filterMap propertyOfMember? ++
        ⟨key.string, "String", raw⟩ :: after.filterMap propertyOfMember?) ∧
      Json.parse raw = .ok (Json.object o).withoutDecimals ∧
      ∀ owner metadata rest, ∃ v,
        valueOfProperty owner metadata ⟨key.string, "String", raw⟩ = .ok v ∧
        unquote? (v.render.toList ++ rest) = some (raw.toList, rest) := by
  have hconfiguration : (Json.object configuration).WellFormed :=
    (wellFormed_of_mem_entries hentries he).within hwithin
  obtain ⟨hnames, -, hmembers⟩ := (wellFormed_configurationMembers hconfiguration).members
  have ho : (Json.object o).WellFormed := hmembers _ hmember.mem
  obtain ⟨before, after, hsplit, hother⟩ := exists_append_of_mem hnames hmember.mem
  refine ⟨before, after, Json.write (.object o), hsplit, hother, ?_, ho.parse_write,
    fun owner metadata rest => unquote?_render_string owner metadata key.string _ rest⟩
  rw [propertiesOf, hsplit, List.filterMap_append]
  rfl

/-- The object in the configuration of a channel. It has an object of its own, a decimal with an
exponent, a text with a quote, a backslash and a character beyond four digits, and two names that
are halves of surrogate pairs. -/
def dimmerRange : Members :=
  [("top", .decimal ⟨false, 150, 7⟩), ("label", .text "\"\\😀"),
    ("in", .object [("x", .list [.decimal ⟨false, 10, -2⟩, .null, .special .notANumber]),
      (⟨[.high 0]⟩, .int 1), (⟨[.high 1]⟩, .int 2)])]

/-- The same object with texts in place of its decimals. -/
def dimmerRangeOfTexts : Members :=
  [("top", .text "1.50E+9"), ("label", .text "\"\\😀"),
    ("in", .object [("x", .list [.text "0.10", .null, .special .notANumber]),
      (⟨[.high 0]⟩, .int 1), (⟨[.high 1]⟩, .int 2)])]

def dimmerText : String :=
  "\x7b\"a:b:c\": \x7b\"channels\": [\x7b\"configuration\": " ++
  "\x7b\"range\": \x7b\"top\": 1.50e9, " ++
  "\"label\": \"\\\"\\\\\\ud83d\\ude00\", \"in\": \x7b\"x\": [0.10, null, NaN], " ++
  "\"\\ud800\": 1, \"\\ud801\": 2\x7d\x7d\x7d\x7d]\x7d\x7d"

theorem nested_object_of_dimmer :
    entriesOf "home" dimmerText = .ok [("a:b:c", [("channels", .list [.object [("configuration",
        .object [("range", .object dimmerRange)])]])])] ∧
      ∃ raw, propertiesOf (.object [("range", .object dimmerRange)]) =
          .ok [⟨"range", "String", raw⟩] ∧
        Json.parse raw = .ok (.object dimmerRangeOfTexts) ∧
        ∀ owner metadata rest, ∃ v,
          valueOfProperty owner metadata ⟨"range", "String", raw⟩ = .ok v ∧
          unquote? (v.render.toList ++ rest) = some (raw.toList, rest) := by
  have hentries : entriesOf "home" dimmerText = .ok [("a:b:c", [("channels", .list [.object
      [("configuration", .object [("range", .object dimmerRange)])]])])] := by
    decide +kernel
  have hwithin : (Json.object [("range", .object dimmerRange)]).Within (.object [("channels",
      .list [.object [("configuration", .object [("range", .object dimmerRange)])]])]) :=
    .member List.mem_cons_self (.item List.mem_cons_self (.member List.mem_cons_self .self))
  have hmember : Configures [("range", .object dimmerRange)] ("range", .object dimmerRange) :=
    .plain List.mem_cons_self (fun inner h => absurd h (by simp [nested]))
  obtain ⟨before, after, raw, hsplit, -, hproperties, hparse, hread⟩ :=
    nested_object_survives hentries List.mem_cons_self hwithin hmember
  have hplain : configurationMembers [("range", .object dimmerRange)] =
      ([("range", .object dimmerRange)] : Members) := by
    simp [configurationMembers]
  rw [hplain] at hsplit
  obtain ⟨rfl, hafter⟩ | ⟨-, hnil⟩ := List.append_eq_singleton_iff.1 hsplit.symm
  · obtain rfl : after = [] := (List.cons.inj hafter).2
    exact ⟨hentries, raw, hproperties, hparse, hread⟩
  · cases hnil

end Database

end HomeCatalog
