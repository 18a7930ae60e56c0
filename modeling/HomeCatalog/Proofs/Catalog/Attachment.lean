import HomeCatalog.Catalog.OfRecords
import HomeCatalog.Proofs.Catalog.Values
import HomeCatalog.Proofs.Grouping
import Mathlib.Data.List.TakeWhile

/-!
# What is attached to variables

A variable gets the selected links that name it and then the selected notes that name it, in the
order of their records (`attachment_of_buildVariables`). A link names its variable itself or in
front of an arrow, a note after the first colon of its name; a built link and a built note keep that
name (`Link.variableName_of_ofRecord`, `Note.variableName_of_ofRecord`). So sharing out the built
ones is sharing out the records, and variables of distinct names get everything that names one of
them, once.
-/

namespace HomeCatalog

/-! ## Names of variables -/

/-- The variable that a note names: what stands after the first colon of the note's name. -/
def NoteRecord.variableName? (r : NoteRecord) : Option String :=
  r.parts?.map (·.2)

/-- The variable that an entry names. -/
def Entry.variableName : Entry → String
  | .link l => l.variableName
  | .note a => a.variableName

/-- The values of an entry. -/
def Entry.properties : Entry → ValueList
  | .link l => l.properties
  | .note a => a.properties

theorem NoteRecord.parts?_eq_some_iff {r : NoteRecord} {namespaceId variableName : String} :
    r.parts? = some (namespaceId, variableName) ↔
      r.name = namespaceId ++ ":" ++ variableName ∧ ':' ∉ namespaceId.toList ∧
        namespaceId ≠ "" ∧ variableName ≠ "" := by
  unfold NoteRecord.parts?
  dsimp only
  constructor
  · intro h
    have hname := List.takeWhile_append_dropWhile (p := (· != ':')) (l := r.name.toList)
    split at h
    · next c after hd =>
      split at h
      · cases h
      · next he =>
        cases h
        have hne : r.name.toList.dropWhile (· != ':') ≠ [] := by simp [hd]
        have hc : c = ':' := by simpa [hd] using List.head_dropWhile_not (· != ':') hne
        rw [hd, hc] at hname
        simp only [Bool.or_eq_true, List.isEmpty_iff, not_or] at he
        refine ⟨?_, ?_, by simpa using he.1, by simpa using he.2⟩
        · apply String.toList_inj.1
          simpa using hname.symm
        · intro hmem
          rw [String.toList_ofList] at hmem
          simpa using List.mem_takeWhile_imp hmem
    · cases h
  · rintro ⟨hname, hcolon, hns, hv⟩
    have hl : r.name.toList = namespaceId.toList ++ ':' :: variableName.toList := by
      rw [hname]
      simp
    have hall : ∀ c ∈ namespaceId.toList, (c != ':') = true := by
      intro c hc
      rw [bne_iff_ne]
      rintro rfl
      exact hcolon hc
    rw [hl, List.takeWhile_append_of_pos hall, List.dropWhile_append_of_pos hall]
    simp [hns, hv]

theorem Link.ofRecord_eq_ok_iff {r : LinkRecord} {l : Link} :
    Link.ofRecord r = .ok l ↔
      ∃ variableName properties, r.variableName? = some variableName ∧ r.channelUid ≠ "" ∧
        valuesOfProperties (.link r.name) true r.properties = .ok properties ∧
        l = { name := r.name, endpointId := r.channelUid, variableName, properties } := by
  unfold Link.ofRecord
  split
  · next hn => simp [hn]
  · next variableName hn =>
    rw [hn]
    by_cases hc : r.channelUid = ""
    · simp [hc]
    · rw [if_neg (by simpa using hc)]
      constructor
      · intro h
        obtain ⟨properties, hp, h⟩ := bind_eq_ok_iff.1 h
        cases h
        exact ⟨variableName, properties, rfl, hc, hp, rfl⟩
      · rintro ⟨_, properties, ⟨⟩, -, hp, rfl⟩
        exact bind_eq_ok_iff.2 ⟨properties, hp, rfl⟩

theorem Note.ofRecord_eq_ok_iff {r : NoteRecord} {a : Note} :
    Note.ofRecord r = .ok a ↔
      ∃ namespaceId variableName properties, r.parts? = some (namespaceId, variableName) ∧
        valuesOfProperties (.note r.name) true r.properties = .ok properties ∧
        a = { name := r.name, namespaceId, value := r.value, variableName, properties } := by
  unfold Note.ofRecord
  split
  · next hn => simp [hn]
  · next namespaceId variableName hn =>
    rw [hn]
    constructor
    · intro h
      obtain ⟨properties, hp, h⟩ := bind_eq_ok_iff.1 h
      cases h
      exact ⟨namespaceId, variableName, properties, rfl, hp, rfl⟩
    · rintro ⟨_, _, properties, ⟨⟩, hp, rfl⟩
      exact bind_eq_ok_iff.2 ⟨properties, hp, rfl⟩

theorem Link.variableName_of_ofRecord {r : LinkRecord} {l : Link} (h : Link.ofRecord r = .ok l) :
    r.variableName? = some l.variableName := by
  obtain ⟨variableName, properties, hn, -, -, rfl⟩ := Link.ofRecord_eq_ok_iff.1 h
  exact hn

theorem Note.variableName_of_ofRecord {r : NoteRecord} {a : Note} (h : Note.ofRecord r = .ok a) :
    r.variableName? = some a.variableName := by
  obtain ⟨namespaceId, variableName, properties, hn, -, rfl⟩ := Note.ofRecord_eq_ok_iff.1 h
  rw [NoteRecord.variableName?, hn]
  rfl

/-- A built variable has the name of its record, and nothing is attached to it. -/
theorem Variable.name_of_ofRecord {r : VariableRecord} {v : Variable}
    (h : Variable.ofRecord r = .ok v) : v.name = r.name ∧ v.entries = [] := by
  unfold Variable.ofRecord at h
  split at h
  · cases h
  · cases h
    exact ⟨rfl, rfl⟩

/-! ## The records that count -/

/-- The records of selected variables. -/
def selectedVariables (selects : String → Bool) (vars : List VariableRecord) :
    List VariableRecord :=
  vars.filter fun r => selects r.name

/-- The records of selected links whose variable passes a test. -/
def linksTo (selects : String → Bool) (links : List LinkRecord) (test : String → Bool) :
    List LinkRecord :=
  (links.filter fun r => selects r.name).filter fun r => r.variableName?.any test

/-- The records of selected notes whose variable passes a test. -/
def notesTo (selects : String → Bool) (notes : List NoteRecord) (test : String → Bool) :
    List NoteRecord :=
  (notes.filter fun r => selects r.name).filter fun r => r.variableName?.any test

/-- The record makes the variable, what is attached to it aside, and both have one name. -/
def VariableRecord.Describes (r : VariableRecord) (v : Variable) : Prop :=
  Variable.ofRecord r = .ok { v with entries := [] } ∧ v.name = r.name

/-- Every selected link and note is attached to the variable it names. -/
structure Attachment (selects : String → Bool) (vars : List VariableRecord)
    (links : List LinkRecord) (notes : List NoteRecord) (built : List Variable) : Prop where
  /-- There is one variable for each selected record, in order. -/
  described : List.Forall₂ VariableRecord.Describes (selectedVariables selects vars) built
  /-- A variable has the links and then the notes that name it, each in order. -/
  entries : ∀ v ∈ built, ∃ ls ns,
    (linksTo selects links (· == v.name)).mapM Link.ofRecord = .ok ls ∧
    (notesTo selects notes (· == v.name)).mapM Note.ofRecord = .ok ns ∧
    v.entries = ls.map .link ++ ns.map .note
  /-- Every entry names the variable it is attached to. -/
  named : ∀ v ∈ built, ∀ e ∈ v.entries, e.variableName = v.name
  /-- Where no name is repeated, the links and notes whose variable is there are attached once, and
  no others are attached. -/
  once : ((selectedVariables selects vars).map (·.name)).Nodup → ∃ ls ns,
    (linksTo selects links ((selectedVariables selects vars).map (·.name)).contains).mapM
      Link.ofRecord = .ok ls ∧
    (notesTo selects notes ((selectedVariables selects vars).map (·.name)).contains).mapM
      Note.ofRecord = .ok ns ∧
    (built.flatMap (·.entries)).Perm (ls.map .link ++ ns.map .note)
  /-- The values of entries are in the mode of metadata. -/
  metadata : ∀ v ∈ built, ∀ e ∈ v.entries, ∀ p ∈ e.properties, p.metadata = true

/-! ## What is built -/

theorem buildVariables_eq_ok_iff {selects : String → Bool} {vars : List VariableRecord}
    {links : List LinkRecord} {notes : List NoteRecord} {built : List Variable} :
    buildVariables selects vars links notes = .ok built ↔
      ∃ ls ns vs, (links.filter fun r => selects r.name).mapM Link.ofRecord = .ok ls ∧
        (notes.filter fun r => selects r.name).mapM Note.ofRecord = .ok ns ∧
        (selectedVariables selects vars).mapM Variable.ofRecord = .ok vs ∧
        built = vs.map fun v => { v with entries := entriesFor ls ns v.name } := by
  unfold buildVariables
  constructor
  · intro h
    obtain ⟨ls, hl, h⟩ := bind_eq_ok_iff.1 h
    obtain ⟨ns, hn, h⟩ := bind_eq_ok_iff.1 h
    obtain ⟨vs, hv, h⟩ := bind_eq_ok_iff.1 h
    cases h
    exact ⟨ls, ns, vs, hl, hn, hv, rfl⟩
  · rintro ⟨ls, ns, vs, hl, hn, hv, rfl⟩
    exact bind_eq_ok_iff.2 ⟨ls, hl, bind_eq_ok_iff.2 ⟨ns, hn, bind_eq_ok_iff.2 ⟨vs, hv, rfl⟩⟩⟩

theorem mapM_linksTo {selects : String → Bool} {links : List LinkRecord} {ls : List Link}
    (h : (links.filter fun r => selects r.name).mapM Link.ofRecord = .ok ls)
    (test : String → Bool) :
    (linksTo selects links test).mapM Link.ofRecord =
      .ok (ls.filter fun l => test l.variableName) := by
  refine mapM_filter_eq_ok (fun r l hr => ?_) h
  rw [Link.variableName_of_ofRecord hr, Option.any_some]

theorem mapM_notesTo {selects : String → Bool} {notes : List NoteRecord} {ns : List Note}
    (h : (notes.filter fun r => selects r.name).mapM Note.ofRecord = .ok ns)
    (test : String → Bool) :
    (notesTo selects notes test).mapM Note.ofRecord =
      .ok (ns.filter fun a => test a.variableName) := by
  refine mapM_filter_eq_ok (fun r a hr => ?_) h
  rw [Note.variableName_of_ofRecord hr, Option.any_some]

section Built

variable {selects : String → Bool} {vars : List VariableRecord} {links : List LinkRecord}
  {notes : List NoteRecord} {built : List Variable}
  (h : buildVariables selects vars links notes = .ok built)

include h

theorem describes_variables :
    List.Forall₂ VariableRecord.Describes (selectedVariables selects vars) built := by
  obtain ⟨ls, ns, vs, -, -, hv, rfl⟩ := buildVariables_eq_ok_iff.1 h
  refine List.forall₂_map_right_iff.2 ((mapM_eq_ok_iff.1 hv).imp fun r v hrv => ?_)
  obtain ⟨hname, hentries⟩ := Variable.name_of_ofRecord hrv
  refine ⟨?_, hname⟩
  rw [hrv]
  exact congrArg Except.ok (by cases v; cases hentries; rfl)

theorem exists_entries_of_mem {v : Variable} (hv : v ∈ built) :
    ∃ ls ns, (linksTo selects links (· == v.name)).mapM Link.ofRecord = .ok ls ∧
      (notesTo selects notes (· == v.name)).mapM Note.ofRecord = .ok ns ∧
      v.entries = ls.map .link ++ ns.map .note := by
  obtain ⟨ls, ns, vs, hl, hn, -, rfl⟩ := buildVariables_eq_ok_iff.1 h
  obtain ⟨w, -, rfl⟩ := List.mem_map.1 hv
  exact ⟨_, _, mapM_linksTo hl _, mapM_notesTo hn _, rfl⟩

/-- An entry comes from a record that names its variable. -/
theorem exists_record_of_mem_entries {v : Variable} (hv : v ∈ built) {e : Entry}
    (he : e ∈ v.entries) :
    (∃ r ∈ linksTo selects links (· == v.name), ∃ l, Link.ofRecord r = .ok l ∧ e = .link l) ∨
      ∃ r ∈ notesTo selects notes (· == v.name), ∃ a, Note.ofRecord r = .ok a ∧ e = .note a := by
  obtain ⟨ls, ns, hl, hn, hentries⟩ := exists_entries_of_mem h hv
  rw [hentries] at he
  rcases List.mem_append.1 he with he | he
  · obtain ⟨l, hmem, rfl⟩ := List.mem_map.1 he
    obtain ⟨r, hr, hrl⟩ := exists_left_of_mem (mapM_eq_ok_iff.1 hl) hmem
    exact .inl ⟨r, hr, l, hrl, rfl⟩
  · obtain ⟨a, hmem, rfl⟩ := List.mem_map.1 he
    obtain ⟨r, hr, hra⟩ := exists_left_of_mem (mapM_eq_ok_iff.1 hn) hmem
    exact .inr ⟨r, hr, a, hra, rfl⟩

theorem variableName_of_mem_entries {v : Variable} (hv : v ∈ built) {e : Entry}
    (he : e ∈ v.entries) : e.variableName = v.name := by
  rcases exists_record_of_mem_entries h hv he with ⟨r, hr, l, hrl, rfl⟩ | ⟨r, hr, a, hra, rfl⟩
  · have htest := (List.mem_filter.1 hr).2
    rw [Link.variableName_of_ofRecord hrl, Option.any_some] at htest
    exact beq_iff_eq.1 htest
  · have htest := (List.mem_filter.1 hr).2
    rw [Note.variableName_of_ofRecord hra, Option.any_some] at htest
    exact beq_iff_eq.1 htest

theorem metadata_of_mem_entries {v : Variable} (hv : v ∈ built) {e : Entry}
    (he : e ∈ v.entries) : ∀ p ∈ e.properties, p.metadata = true := by
  rcases exists_record_of_mem_entries h hv he with ⟨r, -, l, hrl, rfl⟩ | ⟨r, -, a, hra, rfl⟩
  · obtain ⟨-, properties, -, -, hp, rfl⟩ := Link.ofRecord_eq_ok_iff.1 hrl
    exact metadata_of_valuesOfProperties hp
  · obtain ⟨-, -, properties, -, hp, rfl⟩ := Note.ofRecord_eq_ok_iff.1 hra
    exact metadata_of_valuesOfProperties hp

theorem map_name_variables :
    built.map (·.name) = (selectedVariables selects vars).map (·.name) := by
  have hnames : List.Forall₂ (· = ·) ((selectedVariables selects vars).map (·.name))
      (built.map (·.name)) :=
    List.forall₂_map_left_iff.2 (List.forall₂_map_right_iff.2
      ((describes_variables h).imp fun r v hrv => hrv.2.symm))
  rw [List.forall₂_eq_eq_eq] at hnames
  exact hnames.symm

theorem exists_attached_perm (hnodup : ((selectedVariables selects vars).map (·.name)).Nodup) :
    ∃ ls ns,
      (linksTo selects links ((selectedVariables selects vars).map (·.name)).contains).mapM
        Link.ofRecord = .ok ls ∧
      (notesTo selects notes ((selectedVariables selects vars).map (·.name)).contains).mapM
        Note.ofRecord = .ok ns ∧
      (built.flatMap (·.entries)).Perm (ls.map .link ++ ns.map .note) := by
  rw [← map_name_variables h] at hnodup ⊢
  obtain ⟨ls, ns, vs, hl, hn, -, hbuilt⟩ := buildVariables_eq_ok_iff.1 h
  refine ⟨_, _, mapM_linksTo hl _, mapM_notesTo hn _, ?_⟩
  have hentries : built.flatMap (·.entries) = (built.map (·.name)).flatMap (entriesFor ls ns) := by
    rw [hbuilt, List.flatMap_map, List.map_map, List.flatMap_map]
    rfl
  rw [hentries]
  refine (List.flatMap_append_perm _ _ _).symm.trans (.append ?_ ?_)
  · rw [← List.map_flatMap]
    exact (flatMap_filter_perm _ hnodup ls).map _
  · rw [← List.map_flatMap]
    exact (flatMap_filter_perm _ hnodup ns).map _

end Built

theorem attachment_of_buildVariables {selects : String → Bool} {vars : List VariableRecord}
    {links : List LinkRecord} {notes : List NoteRecord} {built : List Variable}
    (h : buildVariables selects vars links notes = .ok built) :
    Attachment selects vars links notes built where
  described := describes_variables h
  entries := fun _ hv => exists_entries_of_mem h hv
  named := fun _ hv _ he => variableName_of_mem_entries h hv he
  once := exists_attached_perm h
  metadata := fun _ hv _ he => metadata_of_mem_entries h hv he

/-- Two variables, a link that is named by its record's arrow, a link of a variable that is not
there, and a note in front of both. -/
theorem attachment_of_two_lights :
    ∃ built, buildVariables (fun _ => true)
        [{ name := "Light", itemType := "Switch" }, { name := "Lux", itemType := "Number" }]
        [{ name := "Lux -> hue:0210:b1:lux", channelUid := "hue:0210:b1:lux" },
          { name := "l2", channelUid := "hue:0210:b1:power", itemName := some "Light" },
          { name := "l3", channelUid := "hue:0210:b1:power", itemName := some "Missing" }]
        [{ name := "ga:Light", value := "Lighting",
            properties := [⟨"inverted", "Bool", "True"⟩] }] =
        .ok built ∧
      Attachment (fun _ => true)
        [{ name := "Light", itemType := "Switch" }, { name := "Lux", itemType := "Number" }]
        [{ name := "Lux -> hue:0210:b1:lux", channelUid := "hue:0210:b1:lux" },
          { name := "l2", channelUid := "hue:0210:b1:power", itemName := some "Light" },
          { name := "l3", channelUid := "hue:0210:b1:power", itemName := some "Missing" }]
        [{ name := "ga:Light", value := "Lighting",
            properties := [⟨"inverted", "Bool", "True"⟩] }]
        built :=
  ⟨_, rfl, attachment_of_buildVariables rfl⟩

end HomeCatalog
