import HomeCatalog.Proofs.Traversal
import HomeCatalog.Proofs.Yaml.Keys
import HomeCatalog.Settings

/-!
# Fields of settings

What a field of a mapping comes to, said of the entries that the mapping has: a field holds the
value that is given for it, or its default where nothing but null is given (`Settings.Holds`), and
it holds something exactly if what is given is of its kind (`Settings.Admits`). The keys of the
mapping are distinct, as those of a lawful reader are, so that at most one value is given.
-/

namespace HomeCatalog.Settings

/-- The mapping has this value under this name. -/
def Gives (entries : Entries) (name : String) (v : Yaml.Value) : Prop :=
  (Yaml.Value.text name, v) ∈ entries

section Field

variable {α : Type} (kind : α → Yaml.Value) (entries : Entries) (name : String)

/-- The field holds the given value, or its default where nothing but null is given. -/
def Holds (default x : α) : Prop :=
  Gives entries name (kind x) ∨ (∀ v, Gives entries name v → v = .null) ∧ x = default

/-- What is given for the field is null or a value of its kind. -/
def Admits : Prop :=
  ∀ v, Gives entries name v → v = .null ∨ ∃ x, v = kind x

end Field

/-! ## Looking fields up -/

variable {entries : Entries} {name : String} {v : Yaml.Value}

theorem field?_eq_none_iff : field? entries name = none ↔ ∀ v, ¬Gives entries name v := by
  rw [field?, Option.map_eq_none_iff, List.find?_eq_none]
  constructor
  · intro h v hv
    exact h _ hv (Yaml.Value.isText_iff.2 rfl)
  · intro h e he hkey
    obtain ⟨k, v⟩ := e
    obtain rfl := Yaml.Value.isText_iff.1 hkey
    exact h v he

theorem gives_of_field? (h : field? entries name = some v) : Gives entries name v := by
  obtain ⟨⟨k, w⟩, hfind, rfl⟩ := Option.map_eq_some_iff.1 h
  have hkey : k.isText name = true :=
    List.find?_some (p := fun e : Yaml.Value × Yaml.Value => e.1.isText name) hfind
  obtain rfl := Yaml.Value.isText_iff.1 hkey
  exact List.mem_of_find?_eq_some hfind

section Distinct

variable (hkeys : Yaml.Value.DistinctKeys entries)

include hkeys

/-- No name is given two values. -/
theorem gives_unique {w : Yaml.Value} (hv : Gives entries name v) (hw : Gives entries name w) :
    v = w := by
  unfold Yaml.Value.DistinctKeys at hkeys
  unfold Gives at hv hw
  induction entries with
  | nil => cases hv
  | cons e rest ih =>
    obtain ⟨hfirst, hrest⟩ := List.pairwise_cons.1 hkeys
    rcases List.mem_cons.1 hv with rfl | hvrest
    · rcases List.mem_cons.1 hw with heq | hwrest
      · exact (Prod.mk.inj heq).2.symm
      · exact absurd rfl (hfirst _ hwrest name rfl)
    · rcases List.mem_cons.1 hw with rfl | hwrest
      · exact absurd rfl (hfirst _ hvrest name rfl)
      · exact ih hrest hvrest hwrest

theorem field?_eq_some_iff : field? entries name = some v ↔ Gives entries name v := by
  constructor
  · exact gives_of_field?
  · intro hv
    cases hfield : field? entries name with
    | none => exact absurd hv (field?_eq_none_iff.1 hfield v)
    | some w => rw [gives_unique hkeys (gives_of_field? hfield) hv]

theorem givenField?_eq_some_iff :
    givenField? entries name = some v ↔ Gives entries name v ∧ v ≠ .null := by
  rw [← field?_eq_some_iff hkeys, givenField?]
  split
  · next hnull => simp [hnull, eq_comm]
  · next hnull =>
    constructor
    · intro hv
      refine ⟨hv, ?_⟩
      rintro rfl
      exact hnull hv
    · exact And.left

theorem givenField?_eq_none_iff :
    givenField? entries name = none ↔ ∀ v, Gives entries name v → v = .null := by
  constructor
  · intro h v hv
    by_contra hnull
    rw [(givenField?_eq_some_iff hkeys).2 ⟨hv, hnull⟩] at h
    cases h
  · intro h
    cases hfield : givenField? entries name with
    | none => rfl
    | some v =>
      obtain ⟨hv, hnull⟩ := (givenField?_eq_some_iff hkeys).1 hfield
      exact absurd (h v hv) hnull

/-! ## Fields of one kind -/

/-- What is read by taking values of one kind, and the default where nothing but null is given. -/
theorem holds_iff_of_reader {α : Type} {kind : α → Yaml.Value} {default x : α}
    {read : Except Failure α} (hdefault : givenField? entries name = none → read = .ok default)
    (hkind : ∀ v, givenField? entries name = some v → (read = .ok x ↔ v = kind x))
    (hnull : kind x ≠ .null) :
    read = .ok x ↔ Holds kind entries name default x := by
  cases hfield : givenField? entries name with
  | none =>
    have hall := (givenField?_eq_none_iff hkeys).1 hfield
    rw [hdefault hfield]
    constructor
    · rintro ⟨⟩
      exact .inr ⟨hall, rfl⟩
    · rintro (hgives | ⟨-, rfl⟩)
      · exact absurd (hall _ hgives) hnull
      · rfl
  | some v =>
    obtain ⟨hv, hne⟩ := (givenField?_eq_some_iff hkeys).1 hfield
    rw [hkind v hfield]
    constructor
    · rintro rfl
      exact .inl hv
    · rintro (hgives | ⟨hall, -⟩)
      · exact gives_unique hkeys hv hgives
      · exact absurd (hall v hv) hne

theorem textField_eq_ok_iff {label : String} {default x : Letters} :
    textField label entries name default = .ok x ↔ Holds .text entries name default x := by
  refine holds_iff_of_reader hkeys (fun h => ?_) (fun v h => ?_) nofun
  · rw [textField, h]
  · rw [textField, h]
    cases v <;> simp

theorem truthField_eq_ok_iff {label : String} {default x : Bool} :
    truthField label entries name default = .ok x ↔ Holds .truth entries name default x := by
  refine holds_iff_of_reader hkeys (fun h => ?_) (fun v h => ?_) nofun
  · rw [truthField, h]
  · rw [truthField, h]
    cases v <;> simp

theorem exists_holds_iff {α : Type} {kind : α → Yaml.Value} (default : α) :
    (∃ x, Holds kind entries name default x) ↔ Admits kind entries name := by
  constructor
  · rintro ⟨x, hgives | ⟨hall, -⟩⟩ v hv
    · exact .inr ⟨x, gives_unique hkeys hv hgives⟩
    · exact .inl (hall v hv)
  · intro h
    by_cases hall : ∀ v, Gives entries name v → v = .null
    · exact ⟨default, .inr ⟨hall, rfl⟩⟩
    · obtain ⟨v, hv⟩ := not_forall.1 hall
      obtain ⟨hgives, hne⟩ := Classical.not_imp.1 hv
      obtain rfl | ⟨x, rfl⟩ := h v hgives
      · exact absurd rfl hne
      · exact ⟨x, .inl hgives⟩

theorem Holds.eq_of_gives {α : Type} {kind : α → Yaml.Value} {default x : α}
    (h : Holds kind entries name default x) (hv : Gives entries name v) (hne : v ≠ .null) :
    v = kind x := by
  rcases h with hgives | ⟨hnull, -⟩
  · exact gives_unique hkeys hv hgives
  · exact absurd (hnull v hv) hne

/-- A field that may be left out altogether. -/
theorem elim_field?_eq_ok_iff {α : Type} {read : Yaml.Value → Except Failure α} {default x : α} :
    (field? entries name).elim (.ok default) read = .ok x ↔
      (∃ v, Gives entries name v ∧ read v = .ok x) ∨
        (∀ v, ¬Gives entries name v) ∧ x = default := by
  cases hfield : field? entries name with
  | none =>
    have hnone := field?_eq_none_iff.1 hfield
    simp [hnone, eq_comm]
  | some v =>
    have hv := (field?_eq_some_iff hkeys).1 hfield
    constructor
    · intro hread
      exact .inl ⟨v, hv, hread⟩
    · rintro (⟨w, hw, hread⟩ | ⟨hnone, -⟩)
      · rw [gives_unique hkeys hv hw]
        exact hread
      · exact absurd hv (hnone v)

end Distinct

/-! ## Names -/

/-- Every name in the mapping is a text, and known. -/
def KnowsNames (known : List String) (entries : Entries) : Prop :=
  ∀ e ∈ entries, ∃ name ∈ known, e.1 = .text name

theorem checkNames_eq_ok_iff {known : List String} {fault : List Letters → Fault} {u : Unit} :
    checkNames known fault entries = .ok u ↔ KnowsNames known entries := by
  have hunknown :
      ((entries.map (·.1)).filter fun k => !known.any fun name => k.isText name) = [] ↔
        KnowsNames known entries := by
    simp [List.filter_eq_nil_iff, KnowsNames, Yaml.Value.isText_iff]
  unfold checkNames
  dsimp only
  rw [← hunknown]
  generalize ((entries.map (·.1)).filter fun k => !known.any fun name => k.isText name) = unknown
  split
  · next k hk =>
    constructor
    · rintro ⟨⟩
    · rintro rfl
      cases hk
  · cases unknown <;> simp

end HomeCatalog.Settings
