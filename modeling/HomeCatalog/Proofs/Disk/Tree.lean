import HomeCatalog.Disk.Basic
import Mathlib.Logic.Function.Basic

/-!
# Places in a tree of files

What a changed tree holds at a place (`node?_put`, `node?_erase`), and where a path leads: if it can
be followed at all, to the place that its names spell (`follow_eq_ok`), which takes nothing but
directories on the way (`follow_mono`).
-/

namespace HomeCatalog

namespace FileTree

variable {t t' : FileTree}

/-! ## What stands at a place -/

@[simp] theorem node?_nil (t : FileTree) : t.node? [] = some (.directory 0o755) := rfl

theorem node?_of_ne_nil (t : FileTree) {place : List String} (h : place ≠ []) :
    t.node? place = t.lookup place := by
  rw [node?, if_neg (by simpa using h)]

/-- A directory stands at the place. -/
def HasDirectory (t : FileTree) (place : List String) : Prop :=
  ∃ mode, t.node? place = some (.directory mode)

theorem not_hasDirectory_of_none {place : List String} (h : t.node? place = none) :
    ¬ t.HasDirectory place := by
  rintro ⟨mode, hmode⟩
  rw [h] at hmode
  cases hmode

theorem not_hasDirectory_of_file {place : List String} {bytes : List UInt8} {mode : Nat}
    (h : t.node? place = some (.file bytes mode)) : ¬ t.HasDirectory place := by
  rintro ⟨mode', hmode⟩
  rw [h] at hmode
  cases hmode

theorem ne_nil_of_not_hasDirectory {place : List String} (h : ¬ t.HasDirectory place) :
    place ≠ [] := by
  rintro rfl
  exact h ⟨_, rfl⟩

theorem lookup_cons (e : List String × Node) (t : FileTree) (q : List String) :
    List.lookup q (e :: t) = if q = e.1 then some e.2 else t.lookup q := by
  rw [List.lookup_cons]
  by_cases hq : q = e.1
  · rw [if_pos hq, beq_iff_eq.2 hq]
  · rw [if_neg hq, beq_eq_false_iff_ne.2 hq]

theorem lookup_erase (t : FileTree) (place q : List String) :
    (t.erase place).lookup q = if q = place then none else t.lookup q := by
  induction t with
  | nil => simp [erase]
  | cons e t ih =>
    rw [erase] at ih
    rw [erase, List.filter_cons]
    by_cases hplace : e.1 = place
    · rw [if_neg (by simpa using hplace), ih]
      by_cases hq : q = place
      · rw [if_pos hq, if_pos hq]
      · rw [if_neg hq, if_neg hq, lookup_cons, if_neg (hplace ▸ hq)]
    · rw [if_pos (by simpa using hplace), lookup_cons, lookup_cons, ih]
      by_cases hq : q = e.1
      · rw [if_pos hq, if_neg (hq ▸ hplace), if_pos hq]
      · rw [if_neg hq, if_neg hq]

theorem node?_erase {place : List String} (h : ¬ t.HasDirectory place) :
    (t.erase place).node? = Function.update t.node? place none := by
  have hne := ne_nil_of_not_hasDirectory h
  funext q
  rw [Function.update_apply]
  by_cases hq : q = []
  · rw [hq, if_neg hne.symm, node?_nil, node?_nil]
  · rw [node?_of_ne_nil _ hq, node?_of_ne_nil _ hq, lookup_erase]

theorem node?_put {place : List String} (h : ¬ t.HasDirectory place) (n : Node) :
    (t.put place n).node? = Function.update t.node? place (some n) := by
  have hne := ne_nil_of_not_hasDirectory h
  funext q
  rw [Function.update_apply]
  by_cases hq : q = []
  · rw [hq, if_neg hne.symm, node?_nil, node?_nil]
  · rw [node?_of_ne_nil _ hq, node?_of_ne_nil _ hq, put, lookup_cons, lookup_erase]
    by_cases hplace : q = place
    · rw [if_pos hplace, if_pos hplace]
    · rw [if_neg hplace, if_neg hplace, if_neg hplace]

/-! ## Where names lead -/

theorem enter_eq_ok_iff {place q : List String} {name : String} :
    t.enter place name = .ok q ↔
      t.HasDirectory place ∧ name.utf8ByteSize ≤ maxNameBytes ∧ q = Path.step place name := by
  unfold enter HasDirectory
  cases t.node? place with
  | none => simp
  | some n =>
    cases n with
    | file bytes mode => simp
    | directory mode =>
      by_cases hlong : name.utf8ByteSize > maxNameBytes
      · simp [hlong, Nat.not_le.2 hlong]
      · simp [hlong, Nat.not_lt.1 hlong, eq_comm]

theorem follow_eq_ok {place names q : List String} (h : t.follow place names = .ok q) :
    q = names.foldl Path.step place := by
  induction names generalizing place with
  | nil =>
    cases h
    rfl
  | cons name names ih =>
    rw [follow] at h
    cases hnext : t.enter place name with
    | error e => simp [hnext] at h
    | ok next =>
      rw [hnext] at h
      obtain ⟨-, -, rfl⟩ := enter_eq_ok_iff.1 hnext
      exact ih h

/-- A way that can be taken stays open as long as its directories are there. -/
theorem follow_mono (hdirs : ∀ place, t.HasDirectory place → t'.HasDirectory place)
    {place names q : List String} (h : t.follow place names = .ok q) :
    t'.follow place names = .ok q := by
  induction names generalizing place with
  | nil => exact h
  | cons name names ih =>
    rw [follow] at h ⊢
    cases hnext : t.enter place name with
    | error e => simp [hnext] at h
    | ok next =>
      rw [hnext] at h
      obtain ⟨hplace, hlength, rfl⟩ := enter_eq_ok_iff.1 hnext
      rw [enter_eq_ok_iff.2 ⟨hdirs place hplace, hlength, rfl⟩]
      exact ih h

/-- Where names are short enough, a way is barred only by what is not there. -/
theorem cause_of_follow {place names : List String} {cause : Refusal}
    (hshort : ∀ name ∈ names, name.utf8ByteSize ≤ maxNameBytes)
    (h : t.follow place names = .error cause) :
    cause = .noSuchEntry ∨ cause = .notDirectory := by
  induction names generalizing place with
  | nil => cases h
  | cons name names ih =>
    obtain ⟨hname, hnames⟩ := List.forall_mem_cons.1 hshort
    rw [follow] at h
    cases hnext : t.enter place name with
    | ok next =>
      rw [hnext] at h
      exact ih hnames h
    | error e =>
      rw [hnext] at h
      cases h
      unfold enter at hnext
      split at hnext
      · cases hnext
        exact .inl rfl
      · cases hnext
        exact .inr rfl
      · rw [if_neg (Nat.not_lt.2 hname)] at hnext
        cases hnext

/-- A way with one more name goes through a directory. -/
theorem follow_append_eq_ok {place q names : List String} {name : String}
    (h : t.follow place (names ++ [name]) = .ok q) :
    ∃ mid, t.follow place names = .ok mid ∧ t.HasDirectory mid := by
  induction names generalizing place with
  | nil =>
    rw [List.nil_append, follow] at h
    cases hnext : t.enter place name with
    | error e => simp [hnext] at h
    | ok next => exact ⟨place, rfl, (enter_eq_ok_iff.1 hnext).1⟩
  | cons first names ih =>
    rw [List.cons_append, follow] at h
    rw [follow]
    cases hnext : t.enter place first with
    | error e => simp [hnext] at h
    | ok next =>
      rw [hnext] at h
      exact ih h

end FileTree

namespace Disk

variable {d d' : Disk} {p target : Path} {q : List String} {tree : FileTree}

/-- The place that a path spells, whatever stands on the way. -/
def place (d : Disk) (p : Path) : List String :=
  (p.resolve d.workingDirectory).parts

theorem locate_eq_ok (h : d.locate p = .ok q) : q = d.place p := by
  rw [FileTree.follow_eq_ok h, place, Path.resolve]

theorem locate_mono (hwd : d'.workingDirectory = d.workingDirectory)
    (hdirs : ∀ place, d.tree.HasDirectory place → d'.tree.HasDirectory place)
    (h : d.locate p = .ok q) : d'.locate p = .ok q := by
  rw [locate, hwd]
  exact FileTree.follow_mono hdirs h

/-- The last name of a path is that of its place, unless it leads up. -/
theorem getLast?_place {name : String} (hlast : p.parts.getLast? = some name) (hup : name ≠ "..") :
    (d.place p).getLast? = some name := by
  obtain ⟨names, hnames⟩ := List.getLast?_eq_some_iff.1 hlast
  rw [place, Path.resolve, hnames, List.foldl_append, List.foldl_cons, List.foldl_nil, Path.step,
    if_neg hup, List.getLast?_concat]

/-! ## Changes of the tree -/

theorem find_eq_ok_iff {n : Node} :
    d.find p = .ok (q, n) ↔ d.locate p = .ok q ∧ d.tree.node? q = some n := by
  unfold find
  cases d.locate p with
  | error cause => simp
  | ok place =>
    simp only [Except.ok.injEq]
    cases hn : d.tree.node? place with
    | none =>
      simp only [reduceCtorEq, false_iff, not_and]
      rintro rfl
      simp [hn]
    | some m =>
      simp only [Except.ok.injEq, Prod.mk.injEq]
      constructor
      · rintro ⟨rfl, rfl⟩
        exact ⟨rfl, hn⟩
      · rintro ⟨rfl, h⟩
        exact ⟨rfl, Option.some.inj (hn.symm.trans h)⟩

theorem node?_of_find_eq_error {cause : Refusal} (h : d.find p = .error cause)
    (hp : d.locate p = .ok q) : d.tree.node? q = none := by
  cases hn : d.tree.node? q with
  | none => rfl
  | some n =>
    rw [find_eq_ok_iff.2 ⟨hp, hn⟩] at h
    cases h

theorem makeNew_eq_ok {n : Node} (h : d.makeNew p n = .ok tree) :
    d.locate p = .ok (d.place p) ∧ d.tree.node? (d.place p) = none ∧
      tree.node? = Function.update d.tree.node? (d.place p) (some n) := by
  unfold makeNew at h
  cases hp : d.locate p with
  | error cause => simp [hp] at h
  | ok place =>
    obtain rfl := locate_eq_ok hp
    rw [hp] at h
    cases hn : d.tree.node? (d.place p) with
    | some m => simp [hn] at h
    | none =>
      simp only [hn, Except.ok.injEq] at h
      refine ⟨rfl, rfl, ?_⟩
      rw [← h, FileTree.node?_put (FileTree.not_hasDirectory_of_none hn)]

/-- A file that is there keeps its mode. -/
theorem write_eq_ok {bytes old : List UInt8} {mode : Nat}
    (hn : d.tree.node? (d.place p) = some (.file old mode)) (h : d.write p bytes = .ok tree) :
    tree.node? = Function.update d.tree.node? (d.place p) (some (.file bytes mode)) := by
  unfold write at h
  cases hp : d.locate p with
  | error cause => simp [hp] at h
  | ok place =>
    obtain rfl := locate_eq_ok hp
    simp only [hp, hn, Except.ok.injEq] at h
    rw [← h, FileTree.node?_put (FileTree.not_hasDirectory_of_file hn)]

theorem replace_eq_ok (h : d.replace p target = .ok tree) :
    ∃ n, d.locate p = .ok (d.place p) ∧ d.tree.node? (d.place p) = some n ∧
      d.locate target = .ok (d.place target) ∧ isEntryPath target = true ∧
      ¬ d.tree.HasDirectory (d.place target) ∧
      tree = (d.tree.erase (d.place p)).put (d.place target) n := by
  unfold replace at h
  cases hfind : d.find p with
  | error cause => simp [hfind] at h
  | ok e =>
    obtain ⟨place, n⟩ := e
    obtain ⟨hp, hn⟩ := find_eq_ok_iff.1 hfind
    obtain rfl := locate_eq_ok hp
    cases htarget : d.locate target with
    | error cause => simp [hfind, htarget] at h
    | ok targetPlace =>
      obtain rfl := locate_eq_ok htarget
      simp only [hfind, htarget] at h
      split at h
      · cases h
      · next hentry =>
        split at h
        · cases h
        · next hfile =>
          cases h
          refine ⟨n, hp, hn, rfl, by simpa using hentry, ?_, rfl⟩
          rintro ⟨mode, hmode⟩
          exact hfile mode hmode

end Disk

end HomeCatalog
