import HomeCatalog.Export
import HomeCatalog.Proofs.Disk.Course

/-!
# One file as a whole

Until the last step a file that is written stands aside under its temporary name (`Aside`), and each
step either keeps it there or fails (`Aside.write`, `Aside.setMode`). The last step puts it in its
place at once (`Aside.replace`), and a failure takes it away again (`Aside.remove`). So a file is
put in its place as a whole, or the tree holds what it held (`ensures_writeFile`).
-/

namespace HomeCatalog

/-- The mode of a file that is put where this stood. -/
def modeOver (withheld : Nat) : Option Node → Nat
  | none => withoutBits 0o666 withheld
  | some n => n.mode

namespace Disk

variable {d d₁ d₂ : Disk} {temporary target : Path} {bytes : List UInt8} {mode : Nat}

/-- The disks differ in their trees at most. -/
def SameAround (d d₁ : Disk) : Prop :=
  d₁ = { d with tree := d₁.tree }

theorem SameAround.refl (d : Disk) : d.SameAround d := rfl

theorem SameAround.trans (h : d.SameAround d₁) (h₁ : d₁.SameAround d₂) : d.SameAround d₂ := by
  rw [SameAround, h₁, h]

theorem SameAround.workingDirectory (h : d.SameAround d₁) :
    d₁.workingDirectory = d.workingDirectory := by
  rw [h]

theorem SameAround.withheld (h : d.SameAround d₁) : d₁.withheld = d.withheld := by
  rw [h]

theorem SameAround.place (h : d.SameAround d₁) (p : Path) : d₁.place p = d.place p := by
  rw [Disk.place, h.workingDirectory, Disk.place]

/-- Nothing is new but a file under a temporary name. -/
structure Aside (d : Disk) (temporary : Path) (bytes : List UInt8) (mode : Nat) (d₁ : Disk) :
    Prop where
  around : d.SameAround d₁
  located : d.locate temporary = .ok (d.place temporary)
  free : d.tree.node? (d.place temporary) = none
  holds : d₁.tree.node? =
    Function.update d.tree.node? (d.place temporary) (some (.file bytes mode))

/-- A file stands where its path leads to, in the place of nothing or of a file. -/
structure Placed (d : Disk) (target : Path) (bytes : List UInt8) (d₁ : Disk) : Prop where
  around : d.SameAround d₁
  located : d.locate target = .ok (d.place target)
  free : ¬ d.tree.HasDirectory (d.place target)
  holds : d₁.tree.node? = Function.update d.tree.node? (d.place target)
    (some (.file bytes (modeOver d.withheld (d.tree.node? (d.place target)))))

/-- The tree holds what it held. -/
structure Untouched (d d₁ : Disk) : Prop where
  around : d.SameAround d₁
  holds : d₁.tree.node? = d.tree.node?

namespace Aside

theorem node?_place (h : d.Aside temporary bytes mode d₁) :
    d₁.tree.node? (d₁.place temporary) = some (.file bytes mode) := by
  rw [h.holds, h.around.place, Function.update_self]

theorem hasDirectory_iff (h : d.Aside temporary bytes mode d₁) (q : List String) :
    d₁.tree.HasDirectory q ↔ d.tree.HasDirectory q := by
  unfold FileTree.HasDirectory
  rw [h.holds, Function.update_apply]
  by_cases hq : q = d.place temporary
  · rw [if_pos hq, hq, h.free]
    simp
  · rw [if_neg hq]

theorem locate_iff (h : d.Aside temporary bytes mode d₁) {p : Path} {q : List String} :
    d₁.locate p = .ok q ↔ d.locate p = .ok q := by
  constructor
  · exact locate_mono h.around.workingDirectory.symm fun q => (h.hasDirectory_iff q).1
  · exact locate_mono h.around.workingDirectory fun q => (h.hasDirectory_iff q).2

theorem find (h : d.Aside temporary bytes mode d₁) :
    d₁.find temporary = .ok (d.place temporary, .file bytes mode) := by
  refine find_eq_ok_iff.2 ⟨h.locate_iff.2 h.located, ?_⟩
  rw [h.holds, Function.update_self]

/-- A file under the temporary name takes the place of the one there. -/
theorem of_update (h : d.Aside temporary bytes mode d₁) {bytes' : List UInt8} {mode' : Nat}
    {tree : FileTree} (htree : tree.node? =
      Function.update d₁.tree.node? (d₁.place temporary) (some (.file bytes' mode'))) :
    d.Aside temporary bytes' mode' { d₁ with tree } where
  around := h.around.trans rfl
  located := h.located
  free := h.free
  holds := by rw [htree, h.around.place, h.holds, Function.update_idem]

/-! ## The steps -/

/-- Some of the bytes are written, or all. -/
theorem write (h : d.Aside temporary bytes mode d₁) {bytes' : List UInt8}
    {x : Except SystemFault Unit} (hx : d₁.MayAnswer (.write temporary bytes') x d₂) :
    (∃ f part, x = .error f ∧ d.Aside temporary part mode d₂) ∨
      (x = .ok () ∧ d.Aside temporary bytes' mode d₂) := by
  rcases hx.write with ⟨f, rfl, rfl⟩ | ⟨f, part, tree, htree, rfl, rfl⟩ | ⟨tree, htree, rfl, rfl⟩
  · exact .inl ⟨f, bytes, rfl, h⟩
  · exact .inl ⟨f, part, rfl, h.of_update (write_eq_ok h.node?_place htree)⟩
  · exact .inr ⟨rfl, h.of_update (write_eq_ok h.node?_place htree)⟩

theorem setMode (h : d.Aside temporary bytes mode d₁) {mode' : Nat}
    {x : Except SystemFault Unit} (hx : d₁.MayAnswer (.setMode temporary mode') x d₂) :
    (∃ f, x = .error f ∧ d.Aside temporary bytes mode d₂) ∨
      (x = .ok () ∧ d.Aside temporary bytes mode' d₂) := by
  rcases hx.setMode with ⟨f, rfl, rfl⟩ | ⟨tree, htree, rfl, rfl⟩
  · exact .inl ⟨f, rfl, h⟩
  · refine .inr ⟨rfl, h.of_update ?_⟩
    rw [h.find] at htree
    cases htree
    rw [← h.around.place, FileTree.node?_put (FileTree.not_hasDirectory_of_file h.node?_place)]
    rfl

/-- The file goes where its path leads to, with the mode that it has. -/
theorem replace (h : d.Aside temporary bytes mode d₁) {x : Except SystemFault Unit}
    (hx : d₁.MayAnswer (.replace temporary target) x d₂)
    (hmode : d.locate target = .ok (d.place target) → isEntryPath target = true →
      mode = modeOver d.withheld (d.tree.node? (d.place target))) :
    (∃ f, x = .error f ∧ d.Aside temporary bytes mode d₂) ∨
      (x = .ok () ∧ d.Placed target bytes d₂) := by
  rcases hx.replace with ⟨f, rfl, rfl⟩ | ⟨tree, htree, rfl, rfl⟩
  · exact .inl ⟨f, rfl, h⟩
  · obtain ⟨n, -, hn, htarget, hentry, hfile, rfl⟩ := replace_eq_ok htree
    obtain rfl := Option.some.inj (h.node?_place.symm.trans hn)
    rw [h.around.place] at htarget hfile
    rw [h.hasDirectory_iff] at hfile
    refine .inr ⟨rfl, h.around.trans rfl, h.locate_iff.1 htarget, hfile, ?_⟩
    have herase : (d₁.tree.erase (d₁.place temporary)).node? = d.tree.node? := by
      rw [FileTree.node?_erase (FileTree.not_hasDirectory_of_file h.node?_place), h.holds,
        h.around.place, Function.update_idem, ← h.free, Function.update_eq_self]
    have hfree : ¬ (d₁.tree.erase (d₁.place temporary)).HasDirectory (d.place target) := by
      unfold FileTree.HasDirectory
      rw [herase]
      exact hfile
    rw [h.around.place target, FileTree.node?_put hfree, herase,
      hmode (h.locate_iff.1 htarget) hentry]

theorem remove (h : d.Aside temporary bytes mode d₁) {x : Except SystemFault Unit}
    (hx : d₁.MayAnswer (.remove temporary) x d₂) : d.Untouched d₂ := by
  rw [hx.remove h.find]
  refine ⟨h.around.trans rfl, ?_⟩
  have hfile := FileTree.not_hasDirectory_of_file h.node?_place
  rw [h.around.place] at hfile
  rw [FileTree.node?_erase hfile, h.holds, Function.update_idem, ← h.free,
    Function.update_eq_self]

end Aside

/-- A new file of its own stands aside under a name that ends in something. -/
theorem aside_of_makeTemporary {directory : Path} {stem : String} {x : Except SystemFault Path}
    (hx : d.MayAnswer (.makeTemporary directory stem) x d₁) :
    (∃ f, x = .error f ∧ d₁ = d) ∨
      ∃ temporary ending, ending ≠ "" ∧ temporary.parts.getLast? = some (stem ++ ending) ∧
        x = .ok temporary ∧ d.Aside temporary [] 0o600 d₁ := by
  rcases hx.makeTemporary with hrefused | ⟨temporary, ending, tree, hending, hlast, htree, rfl, rfl⟩
  · exact .inl hrefused
  · obtain ⟨hlocated, hfree, hholds⟩ := makeNew_eq_ok htree
    exact .inr ⟨temporary, ending, hending, hlast, rfl, rfl, hlocated, hfree, hholds⟩

/-- A temporary name is longer than the name that it is made from. -/
theorem place_ne_of_temporary {ending : String} (hending : ending ≠ "")
    (hlast : temporary.parts.getLast? = some (s!".{target.name}." ++ ending))
    (hentry : isEntryPath target = true) : d.place target ≠ d.place temporary := by
  simp only [isEntryPath, Bool.and_eq_true, Bool.not_eq_true', List.isEmpty_eq_false_iff,
    bne_iff_ne] at hentry
  obtain ⟨hparts, hup⟩ := hentry
  have htarget : target.parts.getLast? = some target.name := by
    rw [Path.name, List.getLast?_eq_some_getLast hparts, Option.getD_some]
  have hlength : (s!".{target.name}." ++ ending).toList.length =
      target.name.toList.length + ending.toList.length + 2 := by
    simp [toString]
    omega
  have hpos : 0 < ending.toList.length := by
    rw [List.length_pos_iff, ne_eq, String.toList_eq_nil_iff]
    exact hending
  have htemporary : s!".{target.name}." ++ ending ≠ ".." := by
    intro he
    have htwo : ("..".toList).length = 2 := rfl
    rw [he] at hlength
    omega
  intro hsame
  have hnames := (getLast?_place htarget hup).symm.trans (hsame ▸ getLast?_place hlast htemporary)
  rw [← Option.some.inj hnames] at hlength
  omega

end Disk

namespace Export

variable {d d₁ : Disk} {temporary target : Path} {bytes : List UInt8} {mode : Nat}

open Disk

theorem ensures_targetMode (d : Disk) (target : Path) :
    (targetMode target).Ensures d fun x d' => d' = d ∧ ∀ mode, x = .ok mode →
      ∀ q, d.locate target = .ok q → mode = modeOver d.withheld (d.tree.node? q) := by
  rw [targetMode, Task.ensures_bind, Task.ensures_request]
  intro x d' hx
  obtain ⟨rfl, ⟨⟨q', n⟩, hfind, rfl⟩ | ⟨f, rfl, hmissing⟩⟩ := hx.inspect
  · refine ⟨rfl, fun mode hmode q hq => ?_⟩
    obtain ⟨hq', hn⟩ := find_eq_ok_iff.1 hfind
    cases hq'.symm.trans hq
    cases hmode
    rw [hn, modeOver]
  · by_cases hcause : f.cause = .noSuchEntry
    · simp only [if_pos hcause, Task.ensures_bind]
      intro withheld d₁ hget former d₂ hset
      obtain ⟨rfl, rfl⟩ := hget.setWithheld
      obtain ⟨-, rfl⟩ := hset.setWithheld
      refine ⟨rfl, fun mode hmode q hq => ?_⟩
      cases hmode
      rw [node?_of_find_eq_error (hmissing hcause) hq, modeOver]
    · simp only [if_neg hcause]
      exact ⟨rfl, fun mode hmode => by cases hmode⟩

/-- A file that stands aside is put in its place, or still stands aside. -/
theorem ensures_settle (h : d.Aside temporary [] mode d₁)
    (hapart : isEntryPath target = true → d.place target ≠ d.place temporary) :
    (settle temporary target bytes).Ensures d₁ fun x d₂ =>
      (∃ f part mode', x = .error f ∧ d.Aside temporary part mode' d₂) ∨
        (x = .ok () ∧ d.Placed target bytes d₂) := by
  have hwrite : (Task.request (.write temporary bytes)).Ensures d₁ fun x d₂ =>
      (∃ f part, x = .error f ∧ d.Aside temporary part mode d₂) ∨
        (x = .ok () ∧ d.Aside temporary bytes mode d₂) := fun x d₂ hx => h.write hx
  refine hwrite.andThen ?_ fun _ d₂ hwritten => ?_
  · rintro e d₂ (⟨f, part, he, haside⟩ | ⟨⟨⟩, -⟩)
    exact .inl ⟨f, part, mode, congrArg _ (Except.error.inj he), haside⟩
  obtain ⟨f, part, ⟨⟩, -⟩ | ⟨-, haside⟩ := hwritten
  refine (ensures_targetMode d₂ target).andThen ?_ fun mode' d₃ hmode => ?_
  · rintro e d₃ ⟨rfl, -⟩
    exact .inl ⟨e, bytes, mode, rfl, haside⟩
  obtain ⟨rfl, hmode⟩ := hmode
  have hset : (Task.request (.setMode temporary mode')).Ensures d₃ fun x d₄ =>
      (∃ f, x = .error f ∧ d.Aside temporary bytes mode d₄) ∨
        (x = .ok () ∧ d.Aside temporary bytes mode' d₄) := fun x d₄ hx => haside.setMode hx
  refine hset.andThen ?_ fun _ d₄ hset => ?_
  · rintro e d₄ (⟨f, he, haside⟩ | ⟨⟨⟩, -⟩)
    exact .inl ⟨f, bytes, mode, congrArg _ (Except.error.inj he), haside⟩
  obtain ⟨f, ⟨⟩, -⟩ | ⟨-, haside'⟩ := hset
  rw [Task.ensures_request]
  intro x d₅ hx
  -- The mode was read while the file stood aside, which is not where it goes.
  have hover : d.locate target = .ok (d.place target) → isEntryPath target = true →
      mode' = modeOver d.withheld (d.tree.node? (d.place target)) := by
    intro hlocated hentry
    rw [hmode mode' rfl _ (haside.locate_iff.2 hlocated), haside.around.withheld, haside.holds,
      Function.update_of_ne (hapart hentry)]
  rcases haside'.replace hx hover with ⟨f, rfl, haside⟩ | hplaced
  · exact .inl ⟨f, bytes, mode', rfl, haside⟩
  · exact .inr hplaced

/-- A file is put in its place as a whole, or nothing is different. -/
theorem ensures_writeFile (d : Disk) (target : Path) (bytes : List UInt8) :
    (writeFile target bytes).Ensures d fun x d' =>
      (∃ f, x = .error f ∧ d.Untouched d') ∨ (x = .ok () ∧ d.Placed target bytes d') := by
  rw [writeFile, Task.ensures_bind, Task.ensures_request]
  intro x d₁ hx
  rcases aside_of_makeTemporary hx with ⟨f, rfl, rfl⟩ |
    ⟨temporary, ending, hending, hlast, rfl, haside⟩
  · exact .inl ⟨_, rfl, .refl _, rfl⟩
  simp only [Task.ensures_bind]
  refine (ensures_settle haside (place_ne_of_temporary hending hlast)).mono fun x d₂ hsettled => ?_
  rcases hsettled with ⟨f, part, mode', rfl, haside⟩ | ⟨rfl, hplaced⟩
  · simp only [Task.ensures_bind]
    intro y d₃ hy
    exact .inl ⟨_, rfl, haside.remove hy⟩
  · exact .inr ⟨rfl, hplaced⟩

end Export

end HomeCatalog
