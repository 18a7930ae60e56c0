import HomeCatalog.Proofs.Disk.Reading
import HomeCatalog.Proofs.Export.Outcome

/-!
# An export that succeeds

An export succeeds if both streams can be encoded and then the directory can be made and one file
after the other be written (`run_exportCatalog_eq_ok_iff`). Its files are then found where their
paths lead (`findsFile_of_writeFile`, `findsFile_of_writeFile_of_ne`).
-/

namespace HomeCatalog

/-- The path leads to a file with these bytes. -/
def Disk.FindsFile (d : Disk) (p : Path) (bytes : List UInt8) : Prop :=
  ∃ place mode, d.find p = .ok (place, .file bytes mode)

namespace Disk

variable {d d₁ d₂ : Disk} {target other : Path} {bytes otherBytes : List UInt8}

theorem FindsFile.unique {p : Path} (h : d.FindsFile p bytes) (h' : d.FindsFile p otherBytes) :
    bytes = otherBytes := by
  obtain ⟨_, _, hp⟩ := h
  obtain ⟨_, _, hp'⟩ := h'
  cases hp.symm.trans hp'
  rfl

theorem findsFile_of_node {p : Path} {q : List String} {mode : Nat} (hp : d.locate p = .ok q)
    (hn : d.tree.node? q = some (.file bytes mode)) : d.FindsFile p bytes :=
  ⟨q, mode, find_eq_ok_iff.2 ⟨hp, hn⟩⟩

namespace Placed

theorem node?_self (h : d.Placed target bytes d₁) : d₁.tree.node? (d.place target) =
    some (.file bytes (modeOver d.withheld (d.tree.node? (d.place target)))) := by
  rw [h.holds, Function.update_self]

theorem node?_of_ne (h : d.Placed target bytes d₁) {q : List String} (hq : q ≠ d.place target) :
    d₁.tree.node? q = d.tree.node? q := by
  rw [h.holds, Function.update_of_ne hq]

/-- Where a path led it still leads. -/
theorem locate (h : d.Placed target bytes d₁) {p : Path} {q : List String}
    (hp : d.locate p = .ok q) : d₁.locate p = .ok q := by
  refine locate_mono h.around.workingDirectory (fun q hq => ?_) hp
  unfold FileTree.HasDirectory at hq ⊢
  rw [h.node?_of_ne]
  · exact hq
  · rintro rfl
    exact h.free hq

theorem findsFile (h : d.Placed target bytes d₁) : d₁.FindsFile target bytes :=
  findsFile_of_node (h.locate h.located) h.node?_self

/-- A file that is put elsewhere afterwards leaves the first alone. -/
theorem findsFile_of_ne (h : d.Placed target bytes d₁) (h₁ : d₁.Placed other otherBytes d₂)
    (hne : d.place target ≠ d.place other) : d₂.FindsFile target bytes := by
  rw [← h.around.place other] at hne
  exact findsFile_of_node (h₁.locate (h.locate h.located))
    ((h₁.node?_of_ne hne).trans h.node?_self)

/-- A file that is put in its place afterwards is all that is found there. -/
theorem findsFile_of_eq (h : d.Placed target bytes d₁) (h₁ : d₁.Placed other otherBytes d₂)
    (he : d.place target = d.place other) : d₂.FindsFile target otherBytes := by
  rw [← h.around.place other] at he
  exact findsFile_of_node (h₁.locate (h.locate h.located)) (he ▸ h₁.node?_self)

end Placed

end Disk

namespace Export

variable {d d' : Disk}

theorem placed_of_writeFile (hseen : ∀ p, d.refuses (.inspect p) ≠ some .noSuchEntry)
    (hending : d.temporaryEnding ≠ "") {target : Path} {bytes : List UInt8}
    (h : (writeFile target bytes).run d = (.ok (), d')) : d.Placed target bytes d' := by
  have hrun := (ensures_writeFile d target bytes).run hseen hending
  rw [h] at hrun
  rcases hrun with ⟨f, hf, -⟩ | ⟨-, hplaced⟩
  · cases hf
  · exact hplaced

theorem sameAround_of_makeDirectories (hseen : ∀ p, d.refuses (.inspect p) ≠ some .noSuchEntry)
    (hending : d.temporaryEnding ≠ "") {p : Path} {x : Except SystemFault Unit}
    (h : (makeDirectories p).run d = (x, d')) : d.SameAround d' := by
  have hmade : d.Whole (fun _ _ => False) p ((makeDirectories p).run d).2 :=
    (ensures_makeDirectories d p).run hseen hending
  rw [h] at hmade
  exact hmade.around

theorem run_exportCatalog_eq_ok_iff {c : Catalog} {directory : Path} {o : LayoutOptions}
    {names : FileNames} {paths : Path × Path} :
    (exportCatalog c directory o names).run d = (.ok paths, d') ↔
      paths = (directory.entry names.devices, directory.entry names.vars) ∧
      ∃ devicesBytes variablesBytes d₁ d₂,
        encodeText (directory.entry names.devices).text (devicesText o c) = .ok devicesBytes ∧
        encodeText (directory.entry names.vars).text (variablesText o c) = .ok variablesBytes ∧
        (makeDirectories directory).run d = (.ok (), d₁) ∧
        (writeFile (directory.entry names.devices) devicesBytes).run d₁ = (.ok (), d₂) ∧
        (writeFile (directory.entry names.vars) variablesBytes).run d₂ = (.ok (), d') := by
  unfold exportCatalog
  dsimp only
  cases encodeText (directory.entry names.devices).text (devicesText o c) with
  | error f => simp
  | ok devicesBytes =>
    cases encodeText (directory.entry names.vars).text (variablesText o c) with
    | error f => simp
    | ok variablesBytes =>
      simp only [writeStreams, Task.run_andThen_eq_ok_iff, Task.run_liftFault_eq_ok_iff,
        Task.run_pure, Except.ok.injEq]
      constructor
      · rintro ⟨_, d₃, ⟨_, d₁, hmade, _, d₂, hdevices, hvars⟩, ⟨⟩⟩
        exact ⟨rfl, devicesBytes, variablesBytes, d₁, d₂, rfl, rfl, hmade, hdevices, hvars⟩
      · rintro ⟨rfl, _, _, d₁, d₂, rfl, rfl, hmade, hdevices, hvars⟩
        exact ⟨(), d', ⟨(), d₁, hmade, (), d₂, hdevices, hvars⟩, rfl⟩

end Export

end HomeCatalog
