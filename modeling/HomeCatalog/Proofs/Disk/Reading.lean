import HomeCatalog.Database.Load
import HomeCatalog.Proofs.Disk.Tree
import HomeCatalog.Proofs.Traversal
import HomeCatalog.Settings

/-!
# Tasks that only read

To look at a path and to read a file leaves a disk as it is, and so does every task made of such
requests (`Task.Reads`). Settings and databases are loaded so: all of a folder is read from one and
the same disk.
-/

namespace HomeCatalog

namespace Disk

/-- What stands for the content of a path: the bytes of the file that it leads to. -/
def contentAt (d : Disk) (p : Path) : Except Refusal (List UInt8) :=
  (d.find p).bind fun e => bytesOf e.2

/-- A read gives the content of the path, unless it is refused for another cause. -/
theorem answer_read (d : Disk) (p : Path) :
    d.answer (.read p) = d.report (.read p) (d.unlessRefused (.read p) (d.contentAt p)) := rfl

end Disk

namespace Task

variable {α β ε δ : Type}

/-- The task leaves every disk as it is. -/
def Reads (t : Task α) : Prop :=
  ∀ d, (t.run d).2 = d

theorem reads_pure (a : α) : (pure a : Task α).Reads := fun _ => rfl

theorem Reads.bind {t : Task α} {f : α → Task β} (h : t.Reads) (hf : ∀ a, (f a).Reads) :
    (t >>= f).Reads := by
  intro d
  rw [run_bind, hf, h]

theorem Reads.andThen {t : Task (Except ε α)} {f : α → Task (Except ε β)} (h : t.Reads)
    (hf : ∀ a, (f a).Reads) : (t.andThen f).Reads := by
  refine h.bind fun x => ?_
  cases x with
  | error e => exact reads_pure _
  | ok a => exact hf a

theorem Reads.liftFault {t : Task (Except ε α)} (h : t.Reads) (f : ε → δ) :
    (t.liftFault f).Reads :=
  h.bind fun _ => reads_pure _

/-! ## Requests -/

theorem snd_report (d : Disk) (r : Request) (result : Except Refusal α) :
    (d.report r result).2 = d := by
  cases result <;> rfl

theorem reads_inspect (p : Path) : (request (.inspect p)).Reads := fun d => snd_report d _ _

theorem reads_read (p : Path) : (request (.read p)).Reads := fun d => snd_report d _ _

theorem reads_workingDirectory : (request .workingDirectory).Reads := fun _ => rfl

theorem reads_entryExists (p : Path) : (entryExists p).Reads := by
  refine (reads_inspect p).bind fun x => ?_
  split
  · exact reads_pure _
  · split <;> exact reads_pure _

theorem reads_isDirectory (p : Path) : (isDirectory p).Reads := by
  refine (reads_inspect p).bind fun x => ?_
  split
  · exact reads_pure _
  · split <;> exact reads_pure _

theorem reads_readText (decode : List UInt8 → Except Text.Utf8Fault (List Char)) (p : Path) :
    (readText decode p).Reads := by
  refine (reads_read p).bind fun x => ?_
  split <;> exact reads_pure _

/-- A value of a task that only reads is there on the disk before and after. -/
theorem Reads.run_eq_iff {t : Task α} (h : t.Reads) {d d' : Disk} {a : α} :
    t.run d = (a, d') ↔ (t.run d).1 = a ∧ d' = d := by
  rw [Prod.ext_iff, h, eq_comm (a := d)]

/-! ## Values -/

theorem Reads.fst_run_andThen {t : Task (Except ε α)} (h : t.Reads)
    (f : α → Task (Except ε β)) (d : Disk) :
    ((t.andThen f).run d).1 = (t.run d).1 >>= fun a => ((f a).run d).1 := by
  rw [run_andThen, h]
  cases (t.run d).1 <;> rfl

theorem fst_run_liftFault (t : Task (Except ε α)) (f : ε → δ) (d : Disk) :
    ((t.liftFault f).run d).1 = (t.run d).1.mapError f := by
  rw [liftFault, run_bind, run_pure]

theorem fst_run_readText (decode : List UInt8 → Except Text.Utf8Fault (List Char)) (p : Path)
    (d : Disk) :
    ((readText decode p).run d).1 =
      match d.unlessRefused (.read p) (d.contentAt p) with
      | .error cause => .error (.system (d.fault (.read p) cause))
      | .ok bytes => textOfBytes decode bytes := by
  rw [readText, run_bind, run_request, Disk.answer_read]
  cases d.unlessRefused (.read p) (d.contentAt p) <;> rfl

/-! ## Tasks that succeed -/

theorem run_andThen_eq_ok_iff {t : Task (Except ε α)} {f : α → Task (Except ε β)} {d d' : Disk}
    {b : β} :
    (t.andThen f).run d = (.ok b, d') ↔
      ∃ a d₁, t.run d = (.ok a, d₁) ∧ (f a).run d₁ = (.ok b, d') := by
  rw [run_andThen]
  obtain ⟨x, d₁⟩ := t.run d
  cases x <;> simp

theorem run_liftFault_eq_ok_iff {t : Task (Except ε α)} {f : ε → δ} {d d' : Disk} {a : α} :
    (t.liftFault f).run d = (.ok a, d') ↔ t.run d = (.ok a, d') := by
  rw [liftFault, run_bind, run_pure, Prod.mk.injEq, mapError_eq_ok_iff, Prod.ext_iff]

end Task

/-! ## Looking -/

namespace Disk

/-- Looking at the path and below it is refused for nothing but what stands there. -/
structure Visible (d : Disk) (p : Path) : Prop where
  looks : ∀ q, d.refuses (.inspect q) = none
  short : ∀ name ∈ p.parts, name.utf8ByteSize ≤ FileTree.maxNameBytes

variable {d : Disk} {p : Path}

theorem Visible.cause (h : d.Visible p) {cause : Refusal} (hfind : d.find p = .error cause) :
    cause = .noSuchEntry ∨ cause = .notDirectory := by
  unfold find at hfind
  split at hfind
  · next hlocate =>
    cases hfind
    exact FileTree.cause_of_follow h.short hlocate
  · split at hfind
    · cases hfind
      exact .inl rfl
    · cases hfind

theorem answer_inspect (hlook : d.refuses (.inspect p) = none) :
    d.answer (.inspect p) = d.report (.inspect p) ((d.find p).map (·.2)) := by
  have hrefused : d.unlessRefused (.inspect p) ((d.find p).map (·.2)) = (d.find p).map (·.2) := by
    rw [unlessRefused, hlook]
  rw [← hrefused]
  rfl

end Disk

namespace Task

variable {d : Disk} {p : Path} (h : d.Visible p)

include h

theorem fst_run_entryExists : ((entryExists p).run d).1 = .ok (d.find p).isOk := by
  rw [entryExists, run_bind, run_request, Disk.answer_inspect (h.looks p)]
  cases hfind : d.find p with
  | ok e => rfl
  | error cause =>
    obtain rfl | rfl := h.cause hfind <;> rfl

theorem fst_run_isDirectory :
    ((isDirectory p).run d).1 = .ok ((d.find p).toOption.any fun e => e.2.isDirectory) := by
  rw [isDirectory, run_bind, run_request, Disk.answer_inspect (h.looks p)]
  cases hfind : d.find p with
  | ok e => rfl
  | error cause =>
    obtain rfl | rfl := h.cause hfind <;> rfl

end Task

/-! ## Loading -/

theorem Settings.reads_load (lib : Library) (file : Path) : (Settings.load lib file).Reads := by
  refine (Task.reads_readText _ file).bind fun x => ?_
  split
  · exact Task.reads_pure _
  · exact Task.reads_pure _
  · split <;> exact Task.reads_pure _

namespace Database

theorem reads_loadCategory {α : Type}
    (convert : String → Members → Except Property.DefinitionFault α) (document : Path) :
    (loadCategory convert document).Reads := by
  refine ((Task.reads_entryExists document).liftFault _).andThen fun there => ?_
  split
  · exact ((Task.reads_readText _ document).liftFault _).andThen fun _ => Task.reads_pure _
  · exact Task.reads_pure _

theorem reads_anyExists (ps : List Path) : (anyExists ps).Reads := by
  induction ps with
  | nil => exact Task.reads_pure _
  | cons p rest ih =>
    refine (Task.reads_entryExists p).andThen fun there => ?_
    split
    · exact Task.reads_pure _
    · exact ih

theorem reads_load (folder : Path) : (load folder).Reads := by
  refine ((Task.reads_isDirectory folder).liftFault _).andThen fun isFolder => ?_
  split
  · exact Task.reads_pure _
  refine ((reads_anyExists _).liftFault _).andThen fun anyThere => ?_
  split
  · exact Task.reads_pure _
  refine (reads_loadCategory _ _).andThen fun devices => ?_
  refine (reads_loadCategory _ _).andThen fun vars => ?_
  refine (reads_loadCategory _ _).andThen fun links => ?_
  exact (reads_loadCategory _ _).andThen fun notes => Task.reads_pure _

end Database

end HomeCatalog
