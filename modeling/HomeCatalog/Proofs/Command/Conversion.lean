import HomeCatalog.Command.Program
import HomeCatalog.Library.Own
import HomeCatalog.Proofs.Command.Arguments
import HomeCatalog.Proofs.Command.Session
import HomeCatalog.Proofs.Export.Success

/-!
# A conversion is its stages

A conversion finds its directory and the settings that it goes by, compiles the filter, loads the
database, builds the catalog, encodes both streams, makes the directory for the files and writes one
file after the other. `Stages` holds what each of these gives, and `Stages.Succeed` says that each
goes well, in terms of the functions that do it alone. Nothing is written before everything is read,
so all reading is said of the disk as it was.

A run ends well exactly if there are such stages, and then says their lines and leaves their files
(`gives_convert_iff`, `conversion_of_program`). Names are said as they are: one that holds a line
end makes more lines than were said (`line_like_warning`).
-/

namespace HomeCatalog.Command

open Session

/-! ## Stages -/

/-- The argument is missing or empty. -/
def NotGiven (argument : Option String) : Prop :=
  argument = none ∨ argument = some ""

/-- The settings that a conversion goes by on a disk: those of a file that the arguments name, or
else of the directory's own, or else the defaults. -/
inductive SettingsOf (lib : Library) (a : ConvertArguments) (d : Disk) (directory : Path) :
    Settings → Prop
  | named (file : String) (hfile : a.config = some file) (hne : file ≠ "") (s : Settings)
      (h : ((Settings.load lib (Path.ofString file)).run d).1 = .ok s) :
      SettingsOf lib a d directory s
  | own (hfile : NotGiven a.config)
      (hthere : ((Task.entryExists (directory.entry settingsFile)).run d).1 = .ok true)
      (s : Settings) (h : ((Settings.load lib (directory.entry settingsFile)).run d).1 = .ok s) :
      SettingsOf lib a d directory s
  | default (hfile : NotGiven a.config)
      (hthere : ((Task.entryExists (directory.entry settingsFile)).run d).1 = .ok false) :
      SettingsOf lib a d directory {}

/-- The folder that an argument names, or else the one that the settings name, seen from the
directory. -/
inductive FolderOf (directory : Path) (argument : Option String) (setting : String) : Path → Prop
  | named (s : String) (h : argument = some s) (hne : s ≠ "") :
      FolderOf directory argument setting (Path.ofString s)
  | setting (h : NotGiven argument) :
      FolderOf directory argument setting (directory.entry setting)

/-- The layout of the settings; the arguments can ask for endpoints that it leaves out. -/
def layoutFor (a : ConvertArguments) (s : Settings) : LayoutOptions :=
  { s.layout with
    includeDefaultEndpoints := a.includeDefaultEndpoints || s.includeDefaultEndpoints }

/-- What the stages of a conversion give. -/
structure Stages where
  /-- The base directory. -/
  directory : Path
  settings : Settings
  input : Path
  output : Path
  filter : Option NameFilter
  records : RecordSet
  catalog : Catalog
  devicesBytes : List UInt8
  variablesBytes : List UInt8
  /-- The disk with the directory for the files, with the first file, and with both. -/
  made : Disk
  half : Disk
  done : Disk

namespace Stages

/-- The path of the file of devices. -/
def devices (s : Stages) : Path :=
  s.output.entry s.settings.devicesFile.string

/-- The path of the file of variables. -/
def vars (s : Stages) : Path :=
  s.output.entry s.settings.variablesFile.string

/-- The lines of a conversion that goes through. -/
def lines (s : Stages) (a : ConvertArguments) : List String :=
  (if a.verbose then
    [s!"Reading JSON database from '{s.input.text}'...", recordCounts s.records] ++
      (s.filter.map fun f => s!"  name filter: {f.text.string}").toList ++ [catalogCounts s.catalog]
  else []) ++
  s.catalog.warnings.map (fun w => s!"Warning: {w.message}") ++
  [s!"Wrote devices to '{s.devices.text}'.", s!"Wrote variables to '{s.vars.text}'."]

/-- The lines in the order in which they are said. -/
theorem lines_eq (s : Stages) (a : ConvertArguments) :
    s.lines a = [] ++
      (if a.verbose then [s!"Reading JSON database from '{s.input.text}'..."] else []) ++
      (if a.verbose then [recordCounts s.records] else []) ++
      (if a.verbose then
        (s.filter.map fun f => s!"  name filter: {f.text.string}").toList else []) ++
      (if a.verbose then [catalogCounts s.catalog] else []) ++
      s.catalog.warnings.map (fun w => s!"Warning: {w.message}") ++
      [s!"Wrote devices to '{s.devices.text}'.", s!"Wrote variables to '{s.vars.text}'."] := by
  rw [lines]
  cases a.verbose with
  | false => rfl
  | true => simp only [if_true, List.nil_append, List.append_assoc, List.cons_append]

/-- Each stage goes well, and gives what it is said to give. All that is read is read on the disk as
it was. -/
structure Succeed (s : Stages) (lib : Library) (a : ConvertArguments) (d : Disk) : Prop where
  directory : s.directory = (Path.ofString a.directory).resolve d.workingDirectory
  there : ((Task.entryExists s.directory).run d).1 = .ok true
  settings : SettingsOf lib a d s.directory s.settings
  input : FolderOf s.directory a.input s.settings.inputDirectory.string s.input
  output : FolderOf s.directory a.output s.settings.outputDirectory.string s.output
  /-- A filter of the arguments counts even if it is empty. -/
  filter :
    NameFilter.ofText? lib.named ((a.filter.map .ofString).or s.settings.nameFilter) = .ok s.filter
  records : ((Database.load s.input).run d).1 = .ok s.records
  catalog : Catalog.ofRecords (NameFilter.selects s.filter) s.records = .ok s.catalog
  devicesEncoded :
    encodeText s.devices.text (devicesText (layoutFor a s.settings) s.catalog) = .ok s.devicesBytes
  variablesEncoded :
    encodeText s.vars.text (variablesText (layoutFor a s.settings) s.catalog) = .ok s.variablesBytes
  directoryMade : (Export.makeDirectories s.output).run d = (.ok (), s.made)
  devicesWritten : (Export.writeFile s.devices s.devicesBytes).run s.made = (.ok (), s.half)
  variablesWritten : (Export.writeFile s.vars s.variablesBytes).run s.half = (.ok (), s.done)

end Stages

/-! ## Arguments and settings -/

theorem nonempty?_eq_some_iff {argument : Option String} {s : String} :
    nonempty? argument = some s ↔ argument = some s ∧ s ≠ "" := by
  rw [nonempty?, Option.filter_eq_some_iff, Bool.not_eq_true', String.isEmpty_eq_false_iff]

theorem nonempty?_eq_none_iff {argument : Option String} :
    nonempty? argument = none ↔ NotGiven argument := by
  rw [nonempty?, NotGiven]
  cases argument <;> simp

theorem folderOf_iff {directory : Path} {argument : Option String} {setting : String} {p : Path} :
    FolderOf directory argument setting p ↔ p = folder directory argument setting := by
  unfold folder
  constructor
  · rintro (⟨s, h, hne⟩ | ⟨h⟩)
    · rw [nonempty?_eq_some_iff.2 ⟨h, hne⟩]
    · rw [nonempty?_eq_none_iff.2 h]
  · rintro rfl
    split
    · next s h =>
      obtain ⟨h, hne⟩ := nonempty?_eq_some_iff.1 h
      exact .named s h hne
    · next h => exact .setting (nonempty?_eq_none_iff.1 h)

section Gives

variable {α : Type} {lib : Library} {m m' : Moment}

theorem gives_baseDirectory_iff {argument : String} {p : Path} :
    (baseDirectory argument).Gives m p m' ↔
      p = (Path.ofString argument).resolve m.disk.workingDirectory ∧
        ((Task.entryExists p).run m.disk).1 = .ok true ∧ m' = m := by
  have hreads : (Task.request .workingDirectory >>= fun names =>
      pure (.ok names) : Task (Except SystemFault (List String))).Reads :=
    Task.reads_workingDirectory.bind fun _ => Task.reads_pure _
  unfold baseDirectory
  simp only [gives_bind_iff, gives_reading_iff hreads, gives_reading_iff (Task.reads_entryExists _)]
  constructor
  · rintro ⟨_, _, ⟨⟨⟩, rfl⟩, there, _, ⟨hthere, rfl⟩, h⟩
    cases there with
    | false => simp at h
    | true =>
      obtain ⟨rfl, rfl⟩ := gives_pure_iff.1 h
      exact ⟨rfl, hthere, rfl⟩
  · rintro ⟨rfl, hthere, rfl⟩
    exact ⟨_, _, ⟨rfl, rfl⟩, true, _, ⟨hthere, rfl⟩, gives_pure_iff.2 ⟨rfl, rfl⟩⟩

theorem gives_settingsFor_iff {a : ConvertArguments} {directory : Path} {s : Settings} :
    (settingsFor lib directory a.config).Gives m s m' ↔
      SettingsOf lib a m.disk directory s ∧ m' = m := by
  unfold settingsFor
  cases hconfig : nonempty? a.config with
  | some file =>
    obtain ⟨hfile, hne⟩ := nonempty?_eq_some_iff.1 hconfig
    simp only [gives_reading_iff (Settings.reads_load lib _)]
    refine and_congr_left fun _ => ⟨.named file hfile hne s, ?_⟩
    rintro (⟨file', hfile', -, _, h⟩ | ⟨hnone, -, -, -⟩ | ⟨hnone, -⟩)
    · cases hfile.symm.trans hfile'
      exact h
    all_goals
      rw [← nonempty?_eq_none_iff, hconfig] at hnone
      cases hnone
  | none =>
    have hnone := nonempty?_eq_none_iff.1 hconfig
    simp only [gives_bind_iff, gives_reading_iff (Task.reads_entryExists _)]
    constructor
    · rintro ⟨there, _, ⟨hthere, rfl⟩, h⟩
      cases there with
      | true =>
        obtain ⟨hload, rfl⟩ := (gives_reading_iff (Settings.reads_load lib _)).1 h
        exact ⟨.own hnone hthere s hload, rfl⟩
      | false =>
        obtain ⟨rfl, rfl⟩ := gives_pure_iff.1 h
        exact ⟨.default hnone hthere, rfl⟩
    · rintro ⟨⟨file, hfile, hne, _, -⟩ | ⟨-, hthere, _, h⟩ | ⟨-, hthere⟩, rfl⟩
      · rw [nonempty?_eq_some_iff.2 ⟨hfile, hne⟩] at hconfig
        cases hconfig
      · exact ⟨true, _, ⟨hthere, rfl⟩, (gives_reading_iff (Settings.reads_load lib _)).2 ⟨h, rfl⟩⟩
      · exact ⟨false, _, ⟨hthere, rfl⟩, gives_pure_iff.2 ⟨rfl, rfl⟩⟩

/-- What is left of a conversion when the records are there. -/
def convertRecords (verbose : Bool) (filter : Option NameFilter) (records : RecordSet)
    (output : Path) (o : LayoutOptions) (names : FileNames) : Session Unit := do
  if let some f := filter then sayIf verbose s!"  name filter: {f.text.string}"
  let catalog ← accept .catalog (Catalog.ofRecords (NameFilter.selects filter) records)
  sayIf verbose (catalogCounts catalog)
  catalog.warnings.forM fun w => say s!"Warning: {w.message}"
  let (devices, vars) ← carryOut .exporting (exportCatalog catalog output o names)
  say s!"Wrote devices to '{devices.text}'."
  say s!"Wrote variables to '{vars.text}'."

/-- If there is a filter, a line may be said about it. -/
theorem gives_filterLine_iff {filter : Option NameFilter} {line : NameFilter → String}
    {wanted : Bool} {rest : Session α} {a : α} :
    (match filter with
      | some f => sayIf wanted (line f) >>= fun _ => rest
      | _ => rest).Gives m a m' ↔
      rest.Gives ⟨m.lines ++ if wanted then (filter.map line).toList else [], m.disk⟩ a m' := by
  cases filter with
  | none => simp
  | some f => simp

theorem gives_convertRecords_iff {verbose : Bool} {filter : Option NameFilter}
    {records : RecordSet} {output : Path} {o : LayoutOptions} {names : FileNames} {u : Unit} :
    (convertRecords verbose filter records output o names).Gives m u m' ↔
      ∃ c paths, Catalog.ofRecords (NameFilter.selects filter) records = .ok c ∧
        (exportCatalog c output o names).run m.disk = (.ok paths, m'.disk) ∧
        m'.lines = m.lines ++
          (if verbose then
            (filter.map fun f => s!"  name filter: {f.text.string}").toList else []) ++
          (if verbose then [catalogCounts c] else []) ++
          c.warnings.map (fun w => s!"Warning: {w.message}") ++
          [s!"Wrote devices to '{paths.1.text}'.", s!"Wrote variables to '{paths.2.text}'."] := by
  unfold convertRecords
  rw [gives_filterLine_iff]
  simp only [gives_bind_iff, gives_accept_iff, gives_sayIf_iff, gives_carryOut_iff, gives_say_iff,
    List.forM_eq_forM, gives_forM_say_iff]
  constructor
  · rintro ⟨c, _, ⟨hc, rfl⟩, _, _, rfl, _, _, rfl, paths, m₁, ⟨hrun, hlines⟩, _, _, rfl, rfl⟩
    refine ⟨c, paths, hc, hrun, ?_⟩
    rw [hlines, List.append_assoc _ [_] [_]]
    rfl
  · rintro ⟨c, paths, hc, hrun, hlines⟩
    refine ⟨c, _, ⟨hc, rfl⟩, (), _, rfl, (), _, rfl, paths, ⟨_ ++ _ ++ _, m'.disk⟩, ⟨hrun, rfl⟩,
      (), _, rfl, Moment.ext ?_ rfl⟩
    rw [hlines, List.append_assoc _ [_] [_]]
    rfl

/-- A conversion goes through exactly if all of its stages do. -/
theorem gives_convert_iff {a : ConvertArguments} {d : Disk} {u : Unit} :
    (convert lib a).Gives ⟨[], d⟩ u m ↔
      ∃ s : Stages, s.Succeed lib a d ∧ m = ⟨s.lines a, s.done⟩ := by
  unfold convert
  simp only [gives_bind_iff, gives_baseDirectory_iff, gives_settingsFor_iff, gives_accept_iff,
    gives_sayIf_iff, gives_reading_iff (Database.reads_load _)]
  constructor
  · rintro ⟨directory, _, ⟨hdirectory, hthere, rfl⟩, settings, _, ⟨hsettings, rfl⟩,
      filter, _, ⟨hfilter, rfl⟩, _, _, rfl, records, _, ⟨hrecords, rfl⟩, _, _, rfl, h⟩
    -- From the records on, the conversion is `convertRecords` by definition.
    change (convertRecords a.verbose filter records
      (folder directory a.output settings.outputDirectory.string) (layoutFor a settings)
      settings.fileNames).Gives _ u m at h
    obtain ⟨catalog, paths, hcatalog, hexport, hlines⟩ := gives_convertRecords_iff.1 h
    obtain ⟨rfl, devicesBytes, variablesBytes, made, half, hdevices, hvars, hmade, hhalf, hdone⟩ :=
      Export.run_exportCatalog_eq_ok_iff.1 hexport
    refine ⟨⟨directory, settings, _, _, filter, records, catalog, devicesBytes, variablesBytes,
      made, half, m.disk⟩, ⟨hdirectory, hthere, hsettings, folderOf_iff.2 rfl, folderOf_iff.2 rfl,
      hfilter, hrecords, hcatalog, hdevices, hvars, hmade, hhalf, hdone⟩, Moment.ext ?_ rfl⟩
    rw [hlines, Stages.lines_eq]
    rfl
  · rintro ⟨s, h, rfl⟩
    refine ⟨s.directory, _, ⟨h.directory, h.there, rfl⟩, s.settings, _, ⟨h.settings, rfl⟩,
      s.filter, _, ⟨h.filter, rfl⟩, (), _, rfl, s.records, _, ⟨?_, rfl⟩, (), _, rfl, ?_⟩
    · rw [← folderOf_iff.1 h.input]
      exact h.records
    · rw [← folderOf_iff.1 h.input, ← folderOf_iff.1 h.output]
      change (convertRecords a.verbose s.filter s.records s.output (layoutFor a s.settings)
        s.settings.fileNames).Gives _ u _
      refine gives_convertRecords_iff.2 ⟨s.catalog, (s.devices, s.vars), h.catalog,
        Export.run_exportCatalog_eq_ok_iff.2 ⟨rfl, s.devicesBytes, s.variablesBytes, s.made, s.half,
          h.devicesEncoded, h.variablesEncoded, h.directoryMade, h.devicesWritten,
          h.variablesWritten⟩, s.lines_eq a⟩

end Gives

/-! ## Lines -/

/-- The line begins as a warning does. -/
def isWarning (line : String) : Bool :=
  "Warning:".toList.isPrefixOf line.toList

/-- No line but that of a warning begins as one. -/
theorem Stages.filter_isWarning_lines (s : Stages) (a : ConvertArguments) :
    (s.lines a).filter isWarning = s.catalog.warnings.map fun w => s!"Warning: {w.message}" := by
  have hnamed : ∀ t : String, isWarning s!"Reading JSON database from '{t}'..." = false ∧
      isWarning s!"  name filter: {t}" = false ∧ isWarning s!"Wrote devices to '{t}'." = false ∧
      isWarning s!"Wrote variables to '{t}'." = false ∧ isWarning s!"Warning: {t}" = true := by
    intro t
    simp only [isWarning, String.toList_append]
    exact ⟨rfl, rfl, rfl, rfl, rfl⟩
  have hrecords : ∀ r : RecordSet, isWarning (recordCounts r) = false := by
    intro r
    simp only [isWarning, recordCounts, String.toList_append]
    rfl
  have hcatalog : ∀ c : Catalog, isWarning (catalogCounts c) = false := by
    intro c
    simp only [isWarning, catalogCounts, String.toList_append]
    rfl
  have hprogress : (if a.verbose then
      [s!"Reading JSON database from '{s.input.text}'...", recordCounts s.records] ++
        (s.filter.map fun f => s!"  name filter: {f.text.string}").toList ++
        [catalogCounts s.catalog]
      else []).filter isWarning = [] := by
    cases a.verbose with
    | false => rfl
    | true => cases s.filter <;> simp [hnamed, hrecords, hcatalog]
  rw [lines, List.filter_append, List.filter_append, hprogress, List.nil_append,
    List.filter_eq_self.2, List.filter_eq_nil_iff.2, List.append_nil]
  · simp [hnamed]
  · simp [hnamed]

/-! ## The whole run -/

/-- What a run of a conversion comes to. -/
structure Conversion (lib : Library) (a : ConvertArguments) (d : Disk) (r : Report) (d' : Disk) :
    Prop where
  /-- It ends well exactly if all stages do. -/
  success : r.status = 0 ↔ ∃ s : Stages, s.Succeed lib a d
  /-- Then the lines are those of the stages. -/
  lines : ∀ s : Stages, s.Succeed lib a d → r.said = s.lines a
  /-- The lines of warnings are those of the catalog, in order. -/
  warnings : ∀ s : Stages, s.Succeed lib a d →
    r.said.filter isWarning = s.catalog.warnings.map fun w => s!"Warning: {w.message}"
  /-- The path of the variables leads to their stream. -/
  vars : ∀ s : Stages, s.Succeed lib a d → d'.FindsFile s.vars s.variablesBytes
  /-- The path of the devices leads to theirs, if the two paths lead to different places. -/
  devices : ∀ s : Stages, s.Succeed lib a d → d.place s.devices ≠ d.place s.vars →
    d'.FindsFile s.devices s.devicesBytes

section Succeed

variable {lib : Library} {s : Stages} {a : ConvertArguments} {d : Disk} (h : s.Succeed lib a d)

include h

theorem run_convert_of_succeed : Session.run (convert lib a) d = ((.ok (), s.lines a), s.done) :=
  gives_convert_iff.2 ⟨s, h, rfl⟩

variable (hseen : ∀ p, d.refuses (.inspect p) ≠ some .noSuchEntry)
  (hending : d.temporaryEnding ≠ "")

include hseen hending

/-- Each file is put in its place, the one of the devices first. -/
theorem placed_of_succeed : d.SameAround s.made ∧ s.made.Placed s.devices s.devicesBytes s.half ∧
    s.half.Placed s.vars s.variablesBytes s.done := by
  have hmade := Export.sameAround_of_makeDirectories hseen hending h.directoryMade
  have hhalf := Export.placed_of_writeFile (by rwa [hmade]) (by rwa [hmade]) h.devicesWritten
  have haround := hmade.trans hhalf.around
  exact ⟨hmade, hhalf,
    Export.placed_of_writeFile (by rwa [haround]) (by rwa [haround]) h.variablesWritten⟩

theorem findsFile_devices_of_ne (hne : d.place s.devices ≠ d.place s.vars) :
    s.done.FindsFile s.devices s.devicesBytes := by
  obtain ⟨hmade, hhalf, hdone⟩ := placed_of_succeed h hseen hending
  rw [← hmade.place, ← hmade.place] at hne
  exact hhalf.findsFile_of_ne hdone hne

end Succeed

theorem run_report (s : Session Unit) (d : Disk) : s.report.run d =
    (.ofResult (Session.run s d).1.2 (Session.run s d).1.1, (Session.run s d).2) := by
  rw [Session.report, Task.run_bind]
  rfl

/-- Arguments that are read as a conversion spell what it goes by and nothing else, and the program
carries its stages out one after the other. -/
theorem conversion_of_program (lib : Library) {args : List String} {a : ConvertArguments}
    (hargs : invocation args = .convert a) {d : Disk}
    (hseen : ∀ p, d.refuses (.inspect p) ≠ some .noSuchEntry) (hending : d.temporaryEnding ≠ "") :
    (∀ a', Asks args a' ↔ a' = a) ∧
      Conversion lib a d ((program lib args).run d).1 ((program lib args).run d).2 := by
  refine ⟨asks_iff_of_invocation hargs, ?_⟩
  have hprogram : (program lib args).run d = (convert lib a).report.run d := by
    rw [program, hargs]
  rw [hprogram, run_report]
  dsimp only
  refine ⟨?_, fun s h => ?_, fun s h => ?_, fun s h => ?_, fun s h hne => ?_⟩
  · have hstatus : (Session.run (convert lib a) d).1.1 = .ok () ↔
        ∃ s : Stages, s.Succeed lib a d := by
      rw [run_eq_ok_iff]
      constructor
      · rintro ⟨m, hm⟩
        obtain ⟨s, h, -⟩ := gives_convert_iff.1 hm
        exact ⟨s, h⟩
      · rintro ⟨s, h⟩
        exact ⟨_, gives_convert_iff.2 ⟨s, h, rfl⟩⟩
    rw [← hstatus]
    cases (Session.run (convert lib a) d).1.1 <;> simp [Report.ofResult]
  · rw [run_convert_of_succeed h]
    rfl
  · rw [run_convert_of_succeed h]
    exact s.filter_isWarning_lines a
  · rw [run_convert_of_succeed h]
    exact (placed_of_succeed h hseen hending).2.2.findsFile
  · rw [run_convert_of_succeed h]
    exact findsFile_devices_of_ne h hseen hending hne

/-! ## One home -/

/-- A home with one device. -/
def plugHome : Disk where
  tree := [
    (["jsondb"], .directory 0o755),
    (["jsondb", Database.devicesDocument],
      .file (Text.encodeUtf8 "\x7b\"acme:plug:p1\": \x7b\x7d\x7d") 0o644)]

/-- The stream of its device. -/
def plugBytes : List UInt8 :=
  Text.encodeUtf8 "Device acme:plug:p1\r\n\r\n"

/-- What there is in it. -/
def plugCatalog : Catalog where
  devices := [{ namespaceId := "acme", typeId := "plug", deviceId := "p1" }]

/-- The home with a directory for the files. -/
def plugMade (output : Path) : Disk :=
  ((Export.makeDirectories output).run plugHome).2

/-- The home with the first file. -/
def plugHalf (output : Path) : Disk :=
  ((Export.writeFile (output.entry "habconf.things") plugBytes).run (plugMade output)).2

/-- The stages of a conversion there, with this directory for the files. -/
def plugStages (output : Path) : Stages where
  directory := ⟨"/", []⟩
  settings := {}
  input := ⟨"/", ["jsondb"]⟩
  output := output
  filter := none
  records := { devices := [{ name := "acme:plug:p1", uid := "acme:plug:p1" }] }
  catalog := plugCatalog
  devicesBytes := plugBytes
  variablesBytes := []
  made := plugMade output
  half := plugHalf output
  done := ((Export.writeFile (output.entry "habconf.items") []).run (plugHalf output)).2

theorem load_plugHome : ((Database.load ⟨"/", ["jsondb"]⟩).run plugHome).1.toOption =
    some { devices := [{ name := "acme:plug:p1", uid := "acme:plug:p1" }] } := by
  decide +kernel

theorem devicesText_plugCatalog :
    devicesText ({} : Settings).layout plugCatalog = "Device acme:plug:p1\r\n\r\n" := by
  simp only [devicesText, sortedDeviceEntries, plugCatalog, List.mergeSort_nil,
    List.mergeSort_singleton]
  decide

theorem variablesText_plugCatalog : variablesText ({} : Settings).layout plugCatalog = "" := by
  simp only [variablesText, sortedVariables, plugCatalog, List.mergeSort_nil]
  decide

theorem encodeCodePage_plug :
    Text.encodeCodePage 0 "Device acme:plug:p1\r\n\r\n".toList = .ok plugBytes := by
  decide +kernel

theorem succeed_plugStages {a : ConvertArguments} {output : Path}
    (ha : a = { output := a.output }) (houtput : FolderOf ⟨"/", []⟩ a.output "conf" output)
    (hmade : ((Export.makeDirectories output).run plugHome).1.toOption = some ())
    (hdevices : ((Export.writeFile (output.entry "habconf.things") plugBytes).run
      (plugMade output)).1.toOption = some ())
    (hvars : ((Export.writeFile (output.entry "habconf.items") []).run
      (plugHalf output)).1.toOption = some ()) :
    (plugStages output).Succeed .own a plugHome := by
  rw [ha]
  refine ⟨show (⟨"/", []⟩ : Path) = (Path.ofString ".").resolve [] by decide, rfl,
    .default (.inl rfl) rfl,
    folderOf_iff.2 (show ⟨"/", ["jsondb"]⟩ = folder ⟨"/", []⟩ none "jsondb" by decide), houtput,
    rfl, toOption_eq_some_iff.1 load_plugHome, rfl, ?_, ?_,
    Prod.ext (toOption_eq_some_iff.1 hmade) rfl, Prod.ext (toOption_eq_some_iff.1 hdevices) rfl,
    Prod.ext (toOption_eq_some_iff.1 hvars) rfl⟩
  · change encodeText _ (devicesText ({} : Settings).layout plugCatalog) = .ok plugBytes
    rw [devicesText_plugCatalog, encodeText, encodeCodePage_plug]
    rfl
  · change encodeText _ (variablesText ({} : Settings).layout plugCatalog) = .ok []
    rw [variablesText_plugCatalog]
    rfl

/-- Without switches the files are in the folder of the settings. -/
theorem conversion_of_plugHome : invocation ["convert"] = .convert {} ∧
    (plugStages ⟨"/", ["conf"]⟩).Succeed .own {} plugHome ∧ (∀ a', Asks ["convert"] a' ↔ a' = {}) ∧
    Conversion .own {} plugHome ((program .own ["convert"]).run plugHome).1
      ((program .own ["convert"]).run plugHome).2 := by
  have hargs : invocation ["convert"] = .convert {} := by decide +kernel
  have houtput : FolderOf ⟨"/", []⟩ none "conf" ⟨"/", ["conf"]⟩ :=
    folderOf_iff.2 (show (⟨"/", ["conf"]⟩ : Path) = folder ⟨"/", []⟩ none "conf" by decide)
  have h : (plugStages ⟨"/", ["conf"]⟩).Succeed .own {} plugHome :=
    succeed_plugStages rfl houtput (by decide +kernel) (by decide +kernel) (by decide +kernel)
  exact ⟨hargs, h, conversion_of_program .own hargs (fun _ => nofun) (by decide)⟩

/-- The folder for the files has a line end in its name, so that the text that is said has a line
that begins as a warning does, though there is none. -/
theorem line_like_warning : ∃ (args : List String) (a : ConvertArguments) (d : Disk) (s : Stages),
    invocation args = .convert a ∧ s.Succeed .own a d ∧
    ((program .own args).run d).1.status = 0 ∧ s.catalog.warnings = [] ∧
    ∃ line ∈ Text.split '\n'
      (String.join (((program .own args).run d).1.said.map (· ++ "\n"))),
      isWarning line = true := by
  have hargs : invocation ["convert", "--output", "conf\nWarning:"] =
      .convert { output := some "conf\nWarning:" } := by
    decide +kernel
  have h : (plugStages ⟨"", ["conf\nWarning:"]⟩).Succeed .own
      { output := some "conf\nWarning:" } plugHome :=
    succeed_plugStages rfl (.named "conf\nWarning:" rfl (by decide)) (by decide +kernel)
      (by decide +kernel) (by decide +kernel)
  have hprogram := (conversion_of_program .own hargs (d := plugHome) (fun _ => nofun) (by decide)).2
  refine ⟨_, _, _, _, hargs, h, hprogram.success.2 ⟨_, h⟩, by decide, ?_⟩
  rw [hprogram.lines _ h]
  decide +kernel

end HomeCatalog.Command
