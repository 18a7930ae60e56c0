import HomeCatalog.Proofs.Export.Success

/-!
# Reading the files of an export

What is read at a path is what the last file put in its place holds. After an export that ends well
the path of the variables gives back their stream. The path of the devices gives back theirs if it
leads to another place; otherwise their file has been replaced by that of the variables, and they
are lost unless both streams are the same (`streams_read_back`). Nothing keeps the two names apart,
so a home may be written with no word about its devices (`devices_lost`).
-/

namespace HomeCatalog

namespace Disk

variable {d d₁ d₂ : Disk} {p target other : Path} {bytes otherBytes : List UInt8}

theorem contentAt_eq_ok_iff : d.contentAt p = .ok bytes ↔ d.FindsFile p bytes := by
  unfold contentAt FindsFile
  cases d.find p with
  | error cause => simp [Except.bind]
  | ok e =>
    obtain ⟨place, n⟩ := e
    cases n with
    | file bytes' mode => simp [Except.bind, bytesOf]
    | directory mode => simp [Except.bind, bytesOf]

/-- The first of two files is read at its path exactly if the second is put elsewhere, or is the
same. -/
theorem Placed.contentAt_iff (h : d.Placed target bytes d₁) (h₁ : d₁.Placed other otherBytes d₂) :
    d₂.contentAt target = .ok bytes ↔ d.place target ≠ d.place other ∨ bytes = otherBytes := by
  rw [contentAt_eq_ok_iff]
  by_cases hplace : d.place target = d.place other
  · have hother : d₂.FindsFile target otherBytes := h.findsFile_of_eq h₁ hplace
    constructor
    · exact fun hbytes => .inr (hbytes.unique hother)
    · rintro (hne | rfl)
      · exact absurd hplace hne
      · exact hother
  · exact iff_of_true (h.findsFile_of_ne h₁ hplace) (.inl hplace)

end Disk

namespace Export

open Disk

variable {d : Disk} {devices vars : Path} {devicesBytes variablesBytes : List UInt8}

/-- If both streams are written, one file is put in its place after the other. -/
theorem ensures_placed_of_writeStreams (d : Disk) (directory devices vars : Path)
    (devicesBytes variablesBytes : List UInt8) :
    (writeStreams directory devices vars devicesBytes variablesBytes).Ensures d fun x d' =>
      x = .ok () → ∃ d₁ d₂, d.SameAround d₁ ∧ d₁.Placed devices devicesBytes d₂ ∧
        d₂.Placed vars variablesBytes d' := by
  have hdirectory : ((makeDirectories directory).liftFault
      (ExportFault.directory directory.text)).Ensures d fun _ d₁ =>
        d.Whole (fun _ _ => False) directory d₁ :=
    Task.ensures_liftFault.2 (ensures_makeDirectories d directory)
  refine hdirectory.andThen (fun e d₁ _ hok => by cases hok) fun _ d₁ h₁ => ?_
  refine (ensures_writeFile d₁ devices devicesBytes).andThen
    (fun e d₂ _ hok => by cases hok) fun _ d₂ hfirst => ?_
  refine (ensures_writeFile d₂ vars variablesBytes).mono fun x d₃ hsecond hok => ?_
  subst hok
  obtain ⟨-, ⟨⟩, -⟩ | ⟨-, hfirst⟩ := hfirst
  obtain ⟨-, ⟨⟩, -⟩ | ⟨-, hsecond⟩ := hsecond
  exact ⟨d₁, d₂, h₁.around, hfirst, hsecond⟩

end Export

/-- What is read at the paths that an export gives: the stream of variables at its own, and that of
devices exactly if its path leads elsewhere or the streams are the same. -/
structure ReadBack (d d' : Disk) (devices vars : Path) (devicesBytes variablesBytes : List UInt8) :
    Prop where
  read_vars : d'.contentAt vars = .ok variablesBytes
  read_devices_iff : d'.contentAt devices = .ok devicesBytes ↔
    d.place devices ≠ d.place vars ∨ devicesBytes = variablesBytes
  /-- At one place the stream of variables is all that is left. -/
  read_shared : d.place devices = d.place vars → d'.contentAt devices = .ok variablesBytes

theorem Disk.Placed.readBack {d d₁ d₂ d₃ : Disk} {devices vars : Path}
    {devicesBytes variablesBytes : List UInt8} (haround : d.SameAround d₁)
    (hfirst : d₁.Placed devices devicesBytes d₂) (hsecond : d₂.Placed vars variablesBytes d₃) :
    ReadBack d d₃ devices vars devicesBytes variablesBytes where
  read_vars := Disk.contentAt_eq_ok_iff.2 hsecond.findsFile
  read_devices_iff := by
    rw [← haround.place devices, ← haround.place vars]
    exact hfirst.contentAt_iff hsecond
  read_shared hplace := by
    rw [← haround.place devices, ← haround.place vars] at hplace
    exact Disk.contentAt_eq_ok_iff.2 (hfirst.findsFile_of_eq hsecond hplace)

/-- However the requests of an export are answered: if it ends well, both streams are read at the
paths that it gives, but for the devices at a place that the variables took. -/
theorem streams_read_back (c : Catalog) (directory : Path) (o : LayoutOptions) (names : FileNames)
    (d : Disk) :
    (exportCatalog c directory o names).Ensures d fun result d' =>
      ∀ devices vars, result = .ok (devices, vars) →
        devices = directory.entry names.devices ∧ vars = directory.entry names.vars ∧
          ∃ devicesBytes variablesBytes,
            encodeText devices.text (devicesText o c) = .ok devicesBytes ∧
            encodeText vars.text (variablesText o c) = .ok variablesBytes ∧
            ReadBack d d' devices vars devicesBytes variablesBytes := by
  unfold exportCatalog
  dsimp only
  cases hdevices : encodeText (directory.entry names.devices).text (devicesText o c) with
  | error f => exact fun devices vars hok => by cases hok
  | ok devicesBytes =>
    dsimp only
    cases hvars : encodeText (directory.entry names.vars).text (variablesText o c) with
    | error f => exact fun devices vars hok => by cases hok
    | ok variablesBytes =>
      have hplaced := Export.ensures_placed_of_writeStreams d directory
        (directory.entry names.devices) (directory.entry names.vars) devicesBytes variablesBytes
      refine hplaced.andThen (fun e d' _ devices vars hok => by cases hok) fun _ d' hplaced => ?_
      rintro devices vars ⟨⟩
      obtain ⟨d₁, d₂, haround, hfirst, hsecond⟩ := hplaced rfl
      exact ⟨rfl, rfl, devicesBytes, variablesBytes, hdevices, hvars,
        Disk.Placed.readBack haround hfirst hsecond⟩

/-! ## One plug -/

/-- A home with one device and no variables. -/
def onePlug : Catalog where
  devices := [{ namespaceId := "acme", typeId := "plug", deviceId := "p1" }]

/-- A disk with the directory for its files. -/
def confThere : Disk where
  tree := [(["conf"], .directory 0o755)]

/-- The stream of its device. -/
def onePlugBytes : List UInt8 :=
  Text.encodeUtf8 "Device acme:plug:p1\r\n\r\n"

theorem encodeText_devices_onePlug (label : String) :
    encodeText label (devicesText {} onePlug) = .ok onePlugBytes := by
  have htext : devicesText {} onePlug = "Device acme:plug:p1\r\n\r\n" := by
    simp only [devicesText, sortedDeviceEntries, onePlug, List.mergeSort_nil,
      List.mergeSort_singleton]
    decide
  have hbytes : Text.encodeCodePage 0 "Device acme:plug:p1\r\n\r\n".toList = .ok onePlugBytes := by
    decide +kernel
  rw [htext, encodeText, hbytes]
  rfl

theorem encodeText_variables_onePlug (label : String) :
    encodeText label (variablesText {} onePlug) = .ok [] := by
  simp only [variablesText, sortedVariables, onePlug, List.mergeSort_nil]
  rfl

theorem makeDirectories_confThere :
    (Export.makeDirectories ⟨"", ["conf"]⟩).run confThere = (.ok (), confThere) := by
  rw [Export.makeDirectories, Task.run_bind, Task.run_request]
  rfl

/-- The disk after both files were written there. -/
def afterExport (names : FileNames) : Disk :=
  let half := ((Export.writeFile (Path.entry ⟨"", ["conf"]⟩ names.devices) onePlugBytes).run
    confThere).2
  ((Export.writeFile (Path.entry ⟨"", ["conf"]⟩ names.vars) []).run half).2

theorem run_exportCatalog_onePlug (names : FileNames)
    (hdevices : ((Export.writeFile (Path.entry ⟨"", ["conf"]⟩ names.devices) onePlugBytes).run
      confThere).1 = .ok ())
    (hvars : ((Export.writeFile (Path.entry ⟨"", ["conf"]⟩ names.vars) []).run
      ((Export.writeFile (Path.entry ⟨"", ["conf"]⟩ names.devices) onePlugBytes).run
        confThere).2).1 = .ok ()) :
    (exportCatalog onePlug ⟨"", ["conf"]⟩ {} names).run confThere =
      (.ok (Path.entry ⟨"", ["conf"]⟩ names.devices, Path.entry ⟨"", ["conf"]⟩ names.vars),
        afterExport names) :=
  Export.run_exportCatalog_eq_ok_iff.2 ⟨rfl, onePlugBytes, [], confThere, _,
    encodeText_devices_onePlug _, encodeText_variables_onePlug _, makeDirectories_confThere,
    Prod.ext hdevices rfl, Prod.ext hvars rfl⟩

/-- With a name for each file both streams are read at their paths, here by way of the directory
above. -/
theorem streams_read_back_of_onePlug : ∃ devices vars d',
    (exportCatalog onePlug ⟨"", ["conf"]⟩ {} ⟨"home", "../conf/items"⟩).run confThere =
      (.ok (devices, vars), d') ∧
    d'.contentAt devices = .ok onePlugBytes ∧ d'.contentAt vars = .ok [] := by
  have hrun := run_exportCatalog_onePlug ⟨"home", "../conf/items"⟩ rfl rfl
  have hread := (streams_read_back onePlug ⟨"", ["conf"]⟩ {} ⟨"home", "../conf/items"⟩
    confThere).run (fun _ => nofun) (by decide)
  rw [hrun] at hread
  obtain ⟨-, -, devicesBytes, variablesBytes, hdevices, hvars, hread⟩ := hread _ _ rfl
  cases (encodeText_devices_onePlug _).symm.trans hdevices
  cases (encodeText_variables_onePlug _).symm.trans hvars
  exact ⟨_, _, _, hrun, hread.read_devices_iff.2 (.inl (by decide)), hread.read_vars⟩

/-- With one name for both files the export ends well, and the device is not read at the path that
it gives for the devices. -/
theorem devices_lost : ∃ p d', (exportCatalog onePlug ⟨"", ["conf"]⟩ {} ⟨"home", "home"⟩).run
      confThere = (.ok (p, p), d') ∧
    encodeText p.text (devicesText {} onePlug) = .ok onePlugBytes ∧
    d'.contentAt p ≠ .ok onePlugBytes :=
  ⟨_, _, run_exportCatalog_onePlug _ rfl rfl, encodeText_devices_onePlug _, by decide +kernel⟩

end HomeCatalog
