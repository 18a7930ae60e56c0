import HomeCatalog.Proofs.Disk.Course
import HomeCatalog.Proofs.Disk.Reading
import HomeCatalog.Proofs.Json.Equality
import HomeCatalog.Proofs.Json.Overflow

/-!
# Databases that end without a message

A database gives records, or there is a fault with a message, unless a number in one of its
documents cannot be held (`Database.database_reported_iff`). The documents are read one after the
other, so a number behind another fault does not count.
-/

namespace HomeCatalog.Database

instance {α : Type} : DecidablePred fun x : Except Failure α => Reported Failure.fault x
  | .ok a => .isTrue (.inl ⟨a, rfl⟩)
  | .error (.fault f) => .isTrue (.inr ⟨f, rfl⟩)
  | .error (.number _) | .error (.system _) => .isFalse fun h => by simp [Reported] at h

/-- The file at the path holds this text. -/
def HoldsText (d : Disk) (p : Path) (text : String) : Prop :=
  ∃ bytes, d.unlessRefused (.read p) (d.contentAt p) = .ok bytes ∧
    textOfBytes Text.decodeMarkedUtf8 bytes = .ok text

/-- A number ends the reading of the document at the path. -/
def Overflows (d : Disk) (p : Path) : Prop :=
  ∃ text f, HoldsText d p text ∧ Json.parse text = .error (.number f)

/-- The document at the path is missing, or gives records. -/
def Loads {α : Type} (convert : String → Members → Except Property.DefinitionFault α) (d : Disk)
    (p : Path) : Prop :=
  (∀ e, d.find p ≠ .ok e) ∨
    ∃ text records, HoldsText d p text ∧ recordsOf convert p.text text = .ok records

/-- A number ends the reading of a document, and those before it are as they should be. -/
def Derails (d : Disk) (folder : Path) : Prop :=
  Overflows d (folder.entry devicesDocument) ∨
    Loads deviceRecord d (folder.entry devicesDocument) ∧
      (Overflows d (folder.entry variablesDocument) ∨
        Loads variableRecord d (folder.entry variablesDocument) ∧
          (Overflows d (folder.entry linksDocument) ∨
            Loads linkRecord d (folder.entry linksDocument) ∧
              Overflows d (folder.entry notesDocument)))

/-! ## Texts -/

theorem entriesOf_failsWith_iff (label text : String) :
    FailsWith (Unreported Failure.fault) (entriesOf label text) ↔
      ∃ f, Json.parse text = .error (.number f) := by
  unfold entriesOf
  cases Json.parse text with
  | error e => cases e <;> simp [Unreported]
  | ok j =>
    rw [failsWith_mapError_iff]
    simp [FailsWith, Unreported]

theorem recordsOf_failsWith_iff {α : Type}
    {convert : String → Members → Except Property.DefinitionFault α} {label text : String} :
    FailsWith (Unreported Failure.fault) (recordsOf convert label text) ↔
      ∃ f, Json.parse text = .error (.number f) := by
  rw [← entriesOf_failsWith_iff label]
  unfold recordsOf
  cases entriesOf label text with
  | error e => simp
  | ok entries =>
    simp only [failsWith_mapError_iff]
    simp [FailsWith, Unreported]

/-! ## Documents -/

variable {d : Disk} {p folder : Path} {α : Type}
  {convert : String → Members → Except Property.DefinitionFault α}

theorem Overflows.exists_find (h : Overflows d p) : ∃ e, d.find p = .ok e := by
  obtain ⟨text, -, ⟨bytes, hbytes, -⟩, -⟩ := h
  have hcontent : d.contentAt p = .ok bytes := Disk.unlessRefused_eq_ok hbytes
  obtain ⟨e, he, -⟩ := bind_eq_ok_iff.1 hcontent
  exact ⟨e, he⟩

/-- The reading of a document that is there. -/
def readRecords (convert : String → Members → Except Property.DefinitionFault α) (p : Path) :
    Task (Except Failure (List α)) :=
  ((Task.readText Text.decodeMarkedUtf8 p).liftFault fun e =>
    Failure.fault (.unreadable p.text e)).andThen fun text =>
      return recordsOf convert p.text text

theorem fst_run_loadCategory (h : d.Visible p) :
    ((loadCategory convert p).run d).1 =
      if (d.find p).isOk then ((readRecords convert p).run d).1 else .ok [] := by
  rw [loadCategory, ((Task.reads_entryExists p).liftFault _).fst_run_andThen,
    Task.fst_run_liftFault, Task.fst_run_entryExists h]
  cases (d.find p).isOk <;> rfl

theorem readRecords_failsWith_iff :
    FailsWith (Unreported Failure.fault) ((readRecords convert p).run d).1 ↔ Overflows d p := by
  rw [readRecords, ((Task.reads_readText _ p).liftFault _).fst_run_andThen,
    Task.fst_run_liftFault, Task.fst_run_readText, failsWith_bind_iff, failsWith_mapError_iff]
  simp only [Task.run_pure, recordsOf_failsWith_iff, mapError_eq_ok_iff, Overflows, HoldsText]
  cases d.unlessRefused (.read p) (d.contentAt p) with
  | error cause => simp [FailsWith]
  | ok bytes => simp [FailsWith]

theorem readRecords_eq_ok_iff {records : List α} :
    ((readRecords convert p).run d).1 = .ok records ↔
      ∃ text, HoldsText d p text ∧ recordsOf convert p.text text = .ok records := by
  rw [readRecords, ((Task.reads_readText _ p).liftFault _).fst_run_andThen,
    Task.fst_run_liftFault, Task.fst_run_readText, bind_eq_ok_iff]
  simp only [Task.run_pure, mapError_eq_ok_iff, HoldsText]
  cases d.unlessRefused (.read p) (d.contentAt p) <;> simp

theorem loadCategory_failsWith_iff (h : d.Visible p) :
    FailsWith (Unreported Failure.fault) ((loadCategory convert p).run d).1 ↔ Overflows d p := by
  rw [fst_run_loadCategory h]
  cases hfind : d.find p with
  | error cause =>
    refine iff_of_false not_failsWith_ok fun hover => ?_
    obtain ⟨e, he⟩ := hover.exists_find
    rw [hfind] at he
    cases he
  | ok e => exact readRecords_failsWith_iff

theorem exists_loadCategory_iff (h : d.Visible p) :
    (∃ records, ((loadCategory convert p).run d).1 = .ok records) ↔ Loads convert d p := by
  rw [fst_run_loadCategory h, Loads]
  cases hfind : d.find p with
  | error cause => exact iff_of_true ⟨[], rfl⟩ (.inl nofun)
  | ok e =>
    have hthere : ¬∀ e', (Except.ok e : Except Refusal _) ≠ .ok e' := fun hnone => hnone e rfl
    rw [or_iff_right hthere, exists_comm]
    exact exists_congr fun records => readRecords_eq_ok_iff

/-! ## Folders -/

theorem entry_of_mem_documents (folder : Path) {name : String} (h : name ∈ documents) :
    folder.entry name = { folder with parts := folder.parts ++ [name] } ∧
      name.utf8ByteSize ≤ FileTree.maxNameBytes := by
  have hname : Path.ofString name = ⟨"", [name]⟩ ∧ name.utf8ByteSize ≤ FileTree.maxNameBytes := by
    revert name
    decide
  refine ⟨?_, hname.2⟩
  rw [Path.entry, hname.1]
  rfl

/-- Where a document is found, its folder is one. -/
theorem exists_find_folder {name : String} (hname : name ∈ documents)
    {e : List String × Node} (hfind : d.find (folder.entry name) = .ok e) :
    ∃ q mode, d.find folder = .ok (q, .directory mode) := by
  obtain ⟨q, n⟩ := e
  have hlocate := (Disk.find_eq_ok_iff.1 hfind).1
  rw [(entry_of_mem_documents folder hname).1] at hlocate
  obtain ⟨mid, hmid, mode, hmode⟩ := FileTree.follow_append_eq_ok hlocate
  exact ⟨mid, mode, Disk.find_eq_ok_iff.2 ⟨hmid, hmode⟩⟩

section Visible

variable (h : d.Visible folder)

include h

theorem visible_entry {name : String} (hname : name ∈ documents) :
    d.Visible (folder.entry name) := by
  obtain ⟨hentry, hshort⟩ := entry_of_mem_documents folder hname
  refine ⟨h.looks, ?_⟩
  rw [hentry]
  exact List.forall_mem_append.2 ⟨h.short, List.forall_mem_singleton.2 hshort⟩

theorem fst_run_anyExists (names : List String) (hnames : ∀ name ∈ names, name ∈ documents) :
    ((anyExists (names.map folder.entry)).run d).1 =
      .ok (names.any fun name => (d.find (folder.entry name)).isOk) := by
  induction names with
  | nil => rfl
  | cons name names ih =>
    obtain ⟨hname, hnames⟩ := List.forall_mem_cons.1 hnames
    rw [List.map_cons, anyExists, (Task.reads_entryExists _).fst_run_andThen,
      Task.fst_run_entryExists (visible_entry h hname), List.any_cons]
    cases (d.find (folder.entry name)).isOk with
    | true => rfl
    | false => exact ih hnames

end Visible

theorem Derails.exists_overflows (h : Derails d folder) :
    ∃ name ∈ documents, Overflows d (folder.entry name) := by
  obtain h | ⟨-, h | ⟨-, h | ⟨-, h⟩⟩⟩ := h
  · exact ⟨devicesDocument, by decide, h⟩
  · exact ⟨variablesDocument, by decide, h⟩
  · exact ⟨linksDocument, by decide, h⟩
  · exact ⟨notesDocument, by decide, h⟩

/-- Where a number ends the reading, there is a folder with a document in it. -/
theorem Derails.found (h : Derails d folder) :
    ((d.find folder).toOption.any fun e => e.2.isDirectory) = true ∧
      (documents.any fun name => (d.find (folder.entry name)).isOk) = true := by
  obtain ⟨name, hname, hover⟩ := h.exists_overflows
  obtain ⟨e, he⟩ := hover.exists_find
  obtain ⟨q, mode, hfolder⟩ := exists_find_folder hname he
  refine ⟨by rw [hfolder]; rfl, List.any_eq_true.2 ⟨name, hname, ?_⟩⟩
  rw [he]
  rfl

theorem load_failsWith_iff (h : d.Visible folder) :
    FailsWith (Unreported Failure.fault) ((load folder).run d).1 ↔ Derails d folder := by
  have hdevices : d.Visible (folder.entry devicesDocument) := visible_entry h (by decide)
  have hvars : d.Visible (folder.entry variablesDocument) := visible_entry h (by decide)
  have hlinks : d.Visible (folder.entry linksDocument) := visible_entry h (by decide)
  have hnotes : d.Visible (folder.entry notesDocument) := visible_entry h (by decide)
  rw [load, ((Task.reads_isDirectory folder).liftFault _).fst_run_andThen, Task.fst_run_liftFault,
    Task.fst_run_isDirectory h]
  cases hfolder : (d.find folder).toOption.any fun e => e.2.isDirectory with
  | false =>
    refine iff_of_false (failsWith_error_iff.not.2 not_unreported) fun hderails => ?_
    rw [hderails.found.1] at hfolder
    cases hfolder
  | true =>
    change FailsWith _ ((((anyExists (documents.map folder.entry)).liftFault _).andThen _).run d).1
      ↔ _
    rw [((reads_anyExists _).liftFault _).fst_run_andThen, Task.fst_run_liftFault,
      fst_run_anyExists h documents fun _ => id]
    cases hfound : documents.any fun name => (d.find (folder.entry name)).isOk with
    | false =>
      refine iff_of_false (failsWith_error_iff.not.2 not_unreported) fun hderails => ?_
      rw [hderails.found.2] at hfound
      cases hfound
    | true =>
      change FailsWith _ (((loadCategory deviceRecord _).andThen _).run d).1 ↔ _
      simp only [(reads_loadCategory _ _).fst_run_andThen, failsWith_bind_iff, Task.run_pure,
        not_failsWith_ok, and_false, exists_false, or_false, exists_and_right,
        loadCategory_failsWith_iff hdevices, exists_loadCategory_iff hdevices,
        loadCategory_failsWith_iff hvars, exists_loadCategory_iff hvars,
        loadCategory_failsWith_iff hlinks, exists_loadCategory_iff hlinks,
        loadCategory_failsWith_iff hnotes]
      rfl

/-- Records are there or a fault is reported, unless a number that cannot be held stands in the way;
and for a folder, unless it does in a document before which no other fault is met. -/
theorem database_reported_iff (label text : String) (h : d.Visible folder) :
    (Reported Failure.fault (entriesOf label text) ↔
      ∀ f, Json.parse text ≠ .error (.number f)) ∧
    (∀ f, Json.parse text = .error (.number f) →
      ∃ l : Json.NumberLiteral, ¬l.CanBeHeld ∧ l.chars <:+: text.toList) ∧
    (Reported Failure.fault ((load folder).run d).1 ↔ ¬Derails d folder) := by
  refine ⟨?_, fun _ => Json.exists_literal_of_parse, ?_⟩
  · rw [reported_iff_not_failsWith, entriesOf_failsWith_iff, not_exists]
  · rw [reported_iff_not_failsWith, load_failsWith_iff h]

/-- A folder with these links and no other records. -/
def linksOnly (links : String) : Disk where
  tree := [
    (["jsondb"], .directory 0o755),
    (["jsondb", variablesDocument], .file (Text.encodeUtf8 "\x7b\x7d") 0o644),
    (["jsondb", linksDocument], .file (Text.encodeUtf8 links) 0o644)]

theorem visible_linksOnly (links : String) : (linksOnly links).Visible ⟨"", ["jsondb"]⟩ :=
  ⟨fun _ => rfl, by decide⟩

/-- A record with one member. -/
def withNumber (number : String) : String :=
  "\x7b\"a\":\x7b\"n\":" ++ number ++ "\x7d\x7d"

def tooGreat : String := withNumber "1e9999999999999999999"

theorem derails_tooGreat :
    (linksOnly tooGreat).Visible ⟨"", ["jsondb"]⟩ ∧
      ¬Reported Failure.fault (entriesOf "a" tooGreat) ∧
      (∃ l : Json.NumberLiteral, ¬l.CanBeHeld ∧ l.chars <:+: tooGreat.toList) ∧
      Derails (linksOnly tooGreat) ⟨"", ["jsondb"]⟩ ∧
      ¬Derails (linksOnly (withNumber "1e99")) ⟨"", ["jsondb"]⟩ := by
  have hvisible := visible_linksOnly tooGreat
  have hparse : Json.parse tooGreat = .error (.number .exponentOutOfRange) := by decide +kernel
  obtain ⟨htext, hstands, hload⟩ := database_reported_iff "a" tooGreat hvisible
  obtain ⟨-, -, hsmall⟩ := database_reported_iff "a" "" (visible_linksOnly (withNumber "1e99"))
  exact ⟨hvisible, fun h => htext.1 h _ hparse, hstands _ hparse,
    not_not.1 (mt hload.2 (by decide +kernel)), hsmall.1 (by decide +kernel)⟩

/-- Nothing is reported of an exponent that is out of range, in a text as in a folder, and of an
integer with too many digits. -/
theorem unreported_numbers :
    ¬Reported Failure.fault (entriesOf "a" tooGreat) ∧
      ¬Reported Failure.fault ((load ⟨"", ["jsondb"]⟩).run
        (linksOnly (withNumber "-1E-9999999999999999999"))).1 ∧
      ¬Reported Failure.fault
        (entriesOf "a" (withNumber (String.ofList (List.replicate 4301 '7')))) := by
  refine ⟨by decide +kernel, by decide +kernel, ?_⟩
  rw [reported_iff_not_failsWith, entriesOf_failsWith_iff, not_not]
  refine ⟨.integerTooLong, Json.parse_eq_number_iff.2 ?_⟩
  simp only [withNumber, String.toList_append, String.toList_ofList]
  decide +kernel

end HomeCatalog.Database
