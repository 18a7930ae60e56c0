import HomeCatalog.Proofs.Database.Spelling
import HomeCatalog.Proofs.Disk.Reading
import HomeCatalog.Proofs.Export.WholeFile
import HomeCatalog.Proofs.Json.Equality

/-!
# Loading another spelling of a database

Two disks that differ in the spelling of documents (`Disk.Respelled`) give the same records when a
folder is loaded, or refuse it with the same fault (`load_eq_of_respelled`).

Loading only reads, so all of it happens on one disk. A path leads to the same place on both disks
(`Disk.Respelled.locate_eq`), and what is looked at or read there is the same but for the spelling
(`Disk.Respelled.agree_inspect`, `Disk.Respelled.agree_read`).
-/

namespace HomeCatalog

/-! ## Files and disks -/

namespace Database

/-- The document in a file with these bytes, if there is one. -/
def documentOf? (bytes : List UInt8) : Option Json :=
  match textOfBytes Text.decodeMarkedUtf8 bytes with
  | .ok text => (Json.parse text).toOption
  | .error _ => none

/-- The bytes of two spellings of a document. -/
inductive SpelledBytes : List UInt8 → List UInt8 → Prop
  | same (bytes : List UInt8) : SpelledBytes bytes bytes
  | document {bytes bytes' : List UInt8} {j j' : Json} : documentOf? bytes = some j →
    documentOf? bytes' = some j' → SpelledDocument j j' → SpelledBytes bytes bytes'

/-- The texts of two spellings of a document. -/
inductive SpelledText : String → String → Prop
  | same (text : String) : SpelledText text text
  | document {text text' : String} {j j' : Json} : Json.parse text = .ok j →
    Json.parse text' = .ok j' → SpelledDocument j j' → SpelledText text text'

theorem documentOf?_eq_some_iff {bytes : List UInt8} {j : Json} :
    documentOf? bytes = some j ↔
      ∃ text, textOfBytes Text.decodeMarkedUtf8 bytes = .ok text ∧ Json.parse text = .ok j := by
  unfold documentOf?
  split
  · next htext => simp [htext, toOption_eq_some_iff]
  · next htext => simp [htext]

/-- One node, or files with two spellings of a document. -/
inductive SpelledNode : Node → Node → Prop
  | directory (mode : Nat) : SpelledNode (.directory mode) (.directory mode)
  | file {bytes bytes' : List UInt8} (mode : Nat) : SpelledBytes bytes bytes' →
    SpelledNode (.file bytes mode) (.file bytes' mode)

end Database

open Database

/-- The disks differ in the spelling of documents at most. -/
structure Disk.Respelled (d d' : Disk) : Prop where
  around : d.SameAround d'
  nodes : ∀ q, Option.Rel SpelledNode (d.tree.node? q) (d'.tree.node? q)

/-- Two trees that list the same places, with nodes that are spellings of each other. -/
theorem FileTree.node?_spelled {t t' : FileTree}
    (h : List.Forall₂ (fun e e' => e.1 = e'.1 ∧ SpelledNode e.2 e'.2) t t') (q : List String) :
    Option.Rel SpelledNode (t.node? q) (t'.node? q) := by
  unfold FileTree.node?
  split
  · exact .some (.directory _)
  · rcases lookup_related (S := fun _ => SpelledNode) h q with ⟨hx, hx'⟩ | ⟨n, n', hx, hx', hn⟩
    · rw [hx, hx']
      exact .none
    · rw [hx, hx']
      exact .some hn

namespace Disk.Respelled

variable {d d' : Disk} (h : d.Respelled d')

include h

theorem enter_eq (place : List String) (name : String) :
    d.tree.enter place name = d'.tree.enter place name := by
  have hnode := h.nodes place
  unfold FileTree.enter
  generalize d.tree.node? place = x, d'.tree.node? place = x' at hnode
  rcases hnode with (_ | _) | _ <;> rfl

theorem follow_eq (place names : List String) :
    d.tree.follow place names = d'.tree.follow place names := by
  induction names generalizing place with
  | nil => rfl
  | cons name names ih =>
    rw [FileTree.follow, FileTree.follow, h.enter_eq]
    split
    · rfl
    · exact ih _

theorem locate_eq (p : Path) : d.locate p = d'.locate p := by
  rw [Disk.locate, Disk.locate, h.around.workingDirectory, h.follow_eq]

theorem agree_find (p : Path) :
    Agree (fun e e' => SpelledNode e.2 e'.2) (d.find p) (d'.find p) := by
  unfold Disk.find
  rw [h.locate_eq]
  split
  · exact .error _
  · next place _ =>
    have hnode := h.nodes place
    generalize d.tree.node? place = x, d'.tree.node? place = x' at hnode
    cases hnode with
    | none => exact .error _
    | some hnode => exact .ok hnode

/-- An answer tells the disks apart by what it is made of alone. -/
theorem agree_report {α β : Type} {S : α → β → Prop} {r : Request}
    (hfault : d.fault r = d'.fault r) {x : Except Refusal α} {y : Except Refusal β}
    (hxy : Agree S x y) :
    Agree S (d.report r (d.unlessRefused r x)).1 (d'.report r (d'.unlessRefused r y)).1 := by
  have hrefuses : d'.refuses = d.refuses := by rw [h.around]
  unfold Disk.unlessRefused Disk.report
  rw [hrefuses, hfault]
  cases d.refuses r with
  | some cause => exact .error _
  | none =>
    cases hxy with
    | error e => exact .error _
    | ok hs => exact .ok hs

theorem agree_inspect (p : Path) :
    Agree SpelledNode (d.answer (.inspect p)).1 (d'.answer (.inspect p)).1 :=
  h.agree_report (r := .inspect p) rfl ((h.agree_find p).map fun _ _ hnode => hnode)

theorem agree_read (p : Path) :
    Agree SpelledBytes (d.answer (.read p)).1 (d'.answer (.read p)).1 := by
  refine h.agree_report (r := .read p) rfl ((h.agree_find p).bind ?_)
  rintro ⟨_, n⟩ ⟨_, n'⟩ (_ | ⟨mode, hbytes⟩)
  · exact .error _
  · exact .ok hbytes

end Disk.Respelled

/-! ## Tasks -/

namespace Task

variable {α β ε δ : Type}

/-- The task has one value on both disks. -/
def SameValue (d d' : Disk) (t : Task α) : Prop :=
  (t.run d).1 = (t.run d').1

variable {d d' : Disk}

theorem sameValue_pure (a : α) : (pure a : Task α).SameValue d d' := rfl

theorem SameValue.andThen {t : Task (Except ε α)} {f : α → Task (Except ε β)}
    (h : t.SameValue d d') (hreads : t.Reads) (hf : ∀ a, (f a).SameValue d d') :
    (t.andThen f).SameValue d d' := by
  rw [SameValue, run_andThen, run_andThen, hreads, hreads, h]
  split
  · exact hf _
  · rfl

theorem SameValue.liftFault {t : Task (Except ε α)} (h : t.SameValue d d') (f : ε → δ) :
    (t.liftFault f).SameValue d d' := by
  rw [SameValue, Task.liftFault, run_bind, run_bind, run_pure, run_pure, h]

section Respelled

variable (h : d.Respelled d')

include h

theorem sameValue_entryExists (p : Path) : (entryExists p).SameValue d d' := by
  have hnode := h.agree_inspect p
  rw [SameValue, entryExists, run_bind, run_bind, run_request, run_request]
  generalize (d.answer (.inspect p)).1 = x, (d'.answer (.inspect p)).1 = x' at hnode
  cases hnode with
  | error e => dsimp only; split <;> rfl
  | ok _ => rfl

theorem sameValue_isDirectory (p : Path) : (isDirectory p).SameValue d d' := by
  have hnode := h.agree_inspect p
  rw [SameValue, isDirectory, run_bind, run_bind, run_request, run_request]
  generalize (d.answer (.inspect p)).1 = x, (d'.answer (.inspect p)).1 = x' at hnode
  cases hnode with
  | error e => dsimp only; split <;> rfl
  | ok hnode => cases hnode <;> rfl

/-- The text of a file is the same but for the spelling. -/
theorem agree_readText (p : Path) :
    Agree SpelledText ((readText Text.decodeMarkedUtf8 p).run d).1
      ((readText Text.decodeMarkedUtf8 p).run d').1 := by
  have hbytes := h.agree_read p
  rw [readText, run_bind, run_bind, run_request, run_request]
  generalize (d.answer (.read p)).1 = x, (d'.answer (.read p)).1 = x' at hbytes
  cases hbytes with
  | error e => exact .error _
  | ok hbytes =>
    cases hbytes with
    | same => exact agree_refl .same _
    | document hdocument hdocument' hspelled =>
      obtain ⟨text, htext, hj⟩ := documentOf?_eq_some_iff.1 hdocument
      obtain ⟨text', htext', hj'⟩ := documentOf?_eq_some_iff.1 hdocument'
      simp only [run_pure, htext, htext']
      exact .ok (.document hj hj' hspelled)

end Respelled

end Task

/-! ## Loading -/

namespace Database

section Respelled

variable {d d' : Disk} (h : d.Respelled d')

include h

theorem sameValue_anyExists (ps : List Path) : (anyExists ps).SameValue d d' := by
  induction ps with
  | nil => rfl
  | cons p ps ih =>
    refine (Task.sameValue_entryExists h p).andThen (Task.reads_entryExists p) fun there => ?_
    split
    · rfl
    · exact ih

theorem sameValue_loadCategory {α : Type}
    {convert : String → Members → Except Property.DefinitionFault α}
    (hconvert : SpellingBlind convert) (document : Path) :
    (loadCategory convert document).SameValue d d' := by
  refine ((Task.sameValue_entryExists h document).liftFault _).andThen
    ((Task.reads_entryExists document).liftFault _) fun there => ?_
  split
  · -- The texts differ here, and the records made of them no longer do.
    have htext := Task.agree_readText h document
    simp only [Task.SameValue, Task.run_andThen, Task.liftFault, Task.run_bind, Task.run_pure]
    generalize ((Task.readText Text.decodeMarkedUtf8 document).run d).1 = x,
      ((Task.readText Text.decodeMarkedUtf8 document).run d').1 = x' at htext
    cases htext with
    | error e => rfl
    | ok htext =>
      cases htext with
      | same => rfl
      | document hj hj' hspelled => exact recordsOf_eq hconvert document.text hj hj' hspelled
  · rfl

theorem sameValue_load (folder : Path) : (load folder).SameValue d d' := by
  refine ((Task.sameValue_isDirectory h folder).liftFault _).andThen
    ((Task.reads_isDirectory folder).liftFault _) fun isFolder => ?_
  split
  · exact Task.sameValue_pure _
  refine ((sameValue_anyExists h _).liftFault _).andThen ((reads_anyExists _).liftFault _)
    fun anyThere => ?_
  split
  · exact Task.sameValue_pure _
  refine (sameValue_loadCategory h spellingBlind_deviceRecord _).andThen
    (reads_loadCategory _ _) fun devices => ?_
  refine (sameValue_loadCategory h spellingBlind_variableRecord _).andThen
    (reads_loadCategory _ _) fun vars => ?_
  refine (sameValue_loadCategory h spellingBlind_linkRecord _).andThen
    (reads_loadCategory _ _) fun links => ?_
  refine (sameValue_loadCategory h spellingBlind_noteRecord _).andThen
    (reads_loadCategory _ _) fun notes => ?_
  exact Task.sameValue_pure _

/-- Another spelling of a database is loaded as the same records, or refused with the same fault. -/
theorem load_eq_of_respelled (folder : Path) :
    ((load folder).run d').1 = ((load folder).run d).1 :=
  (sameValue_load h folder).symm

end Respelled

/-! ## One home in two spellings -/

/-- A home with these four documents. -/
def homeOf (devices vars links notes : String) : Disk where
  tree := [
    (["jsondb"], .directory 0o755),
    (["jsondb", devicesDocument], .file (Text.encodeUtf8 devices) 0o644),
    (["jsondb", variablesDocument], .file (Text.encodeUtf8 vars) 0o644),
    (["jsondb", linksDocument], .file (Text.encodeUtf8 links) 0o644),
    (["jsondb", notesDocument], .file (Text.encodeUtf8 notes) 0o644)]

theorem respelled_homeOf {devices devices' vars vars' links links' notes notes' : String}
    (hdevices : SpelledBytes (Text.encodeUtf8 devices) (Text.encodeUtf8 devices'))
    (hvars : SpelledBytes (Text.encodeUtf8 vars) (Text.encodeUtf8 vars'))
    (hlinks : SpelledBytes (Text.encodeUtf8 links) (Text.encodeUtf8 links'))
    (hnotes : SpelledBytes (Text.encodeUtf8 notes) (Text.encodeUtf8 notes')) :
    (homeOf devices vars links notes).Respelled (homeOf devices' vars' links' notes') where
  around := rfl
  nodes := FileTree.node?_spelled
    (.cons ⟨rfl, .directory _⟩ (.cons ⟨rfl, .file _ hdevices⟩ (.cons ⟨rfl, .file _ hvars⟩
      (.cons ⟨rfl, .file _ hlinks⟩ (.cons ⟨rfl, .file _ hnotes⟩ .nil)))))

/-- Ids as texts, and nothing around records and configurations. -/
def plainHome : Disk :=
  homeOf
    "\x7b\"p\":\x7b\"UID\":\"a:b:c\",\"channels\":[\x7b\"uid\":\"a:b:c:d\"\x7d]\x7d\x7d"
    "\x7b\"V\":\x7b\"itemType\":\"Switch\"\x7d\x7d"
    "\x7b\"k\":\x7b\"channelUID\":\"a:b:c:d\"\x7d\x7d"
    "\x7b\"n\":\x7b\"key\":\"m:V\",\"configuration\":\x7b\"x\":1\x7d\x7d\x7d"

/-- The same home with ids in segments, a variable and a note with their classes, and a
configuration one level deeper. -/
def spelledHome : Disk :=
  homeOf
    ("\x7b\"p\":\x7b\"UID\":\x7b\"segments\":[\"a\",\"b\",\"c\"]\x7d," ++
      "\"channels\":[\x7b\"uid\":\x7b\"segments\":[\"a\",\"b\",\"c\",\"d\"]\x7d\x7d]\x7d\x7d")
    "\x7b\"V\":\x7b\"class\":0,\"value\":\x7b\"itemType\":\"Switch\"\x7d\x7d\x7d"
    "\x7b\"k\":\x7b\"channelUID\":\x7b\"segments\":[\"a\",\"b\",\"c\",\"d\"]\x7d\x7d\x7d"
    ("\x7b\"n\":\x7b\"class\":null,\"value\":\x7b\"key\":\x7b\"segments\":[\"m\",\"V\"]\x7d," ++
      "\"configuration\":\x7b\"properties\":\x7b\"x\":1\x7d\x7d\x7d\x7d\x7d")

theorem spelledDocument_single (name : Letters) {ms ms' : Members} (h : SpelledRecord ms ms') :
    SpelledDocument (.object [(name, .object ms)]) (.object [(name, .object ms')]) :=
  .object (.cons ⟨rfl, .record h⟩ .nil)

theorem respelled_spelledHome : plainHome.Respelled spelledHome := by
  refine respelled_homeOf ?devices ?vars ?links ?notes
  case devices =>
    have hendpoint : SpelledEndpoint (.object [("uid", .text "a:b:c:d")])
        (.object [("uid", segmented "a:b:c:d")]) :=
      .object (.cons ⟨rfl, .id _ (by decide)⟩ .nil)
    have hrecord : SpelledBy SpelledMember
        [("UID", .text "a:b:c"), ("channels", .list [.object [("uid", .text "a:b:c:d")]])]
        [("UID", segmented "a:b:c"),
          ("channels", .list [.object [("uid", segmented "a:b:c:d")]])] :=
      .cons ⟨rfl, .value (.id _ (by decide))⟩
        (.cons ⟨rfl, .channels (.cons hendpoint .nil)⟩ .nil)
    exact .document (by decide +kernel) (by decide +kernel)
      (spelledDocument_single "p" (.bare hrecord))
  case vars =>
    have hrecord : SpelledRecord [("itemType", .text "Switch")]
        [("class", .int 0), ("value", .object [("itemType", .text "Switch")])] :=
      .wrapped _ (by simp [List.lookup_cons]) (.cons ⟨rfl, .value (.same _ _)⟩ .nil)
    exact .document (by decide +kernel) (by decide +kernel)
      (spelledDocument_single "V" hrecord)
  case links =>
    have hrecord : SpelledBy SpelledMember [("channelUID", .text "a:b:c:d")]
        [("channelUID", segmented "a:b:c:d")] :=
      .cons ⟨rfl, .value (.id _ (by decide))⟩ .nil
    exact .document (by decide +kernel) (by decide +kernel)
      (spelledDocument_single "k" (.bare hrecord))
  case notes =>
    have hrecord : SpelledBy SpelledMember
        [("key", .text "m:V"), ("configuration", .object [("x", .int 1)])]
        [("key", segmented "m:V"),
          ("configuration", .object [("properties", .object [("x", .int 1)])])] :=
      .cons ⟨rfl, .value (.id _ (by decide))⟩
        (.cons ⟨rfl, .value (.configuration (by simp [nested]))⟩ .nil)
    have hwrapped := SpelledRecord.wrapped .null (by simp [List.lookup_cons]) hrecord
    exact .document (by decide +kernel) (by decide +kernel)
      (spelledDocument_single "n" hwrapped)

theorem load_eq_of_spelledHome : plainHome.Respelled spelledHome ∧
    ((load ⟨"/", ["jsondb"]⟩).run spelledHome).1 = ((load ⟨"/", ["jsondb"]⟩).run plainHome).1 ∧
    ((load ⟨"/", ["jsondb"]⟩).run plainHome).1.toOption = some {
      devices := [{ name := "p", uid := "a:b:c", endpoints := [{ uid := "a:b:c:d" }] }]
      vars := [{ name := "V", itemType := "Switch" }]
      links := [{ name := "k", channelUid := "a:b:c:d" }]
      notes := [{ name := "m:V", properties := [⟨"x", "Int", "1"⟩] }] } :=
  ⟨respelled_spelledHome, load_eq_of_respelled respelled_spelledHome _, by decide +kernel⟩

end Database

end HomeCatalog
