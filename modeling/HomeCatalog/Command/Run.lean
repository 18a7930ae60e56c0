import HomeCatalog.Catalog.Consistency
import HomeCatalog.Catalog.OfRecords
import HomeCatalog.Command.Arguments
import HomeCatalog.Database.Load
import HomeCatalog.Export
import HomeCatalog.Pattern.NameFilter
import HomeCatalog.Settings

/-!
# Runs

The two things that the program does: `init` writes a file of default settings, and `convert` reads
a database, builds its catalog and exports it. A run says lines to the reader on its way and ends
well or with a failure; the lines said before a failure stay said.
-/

namespace HomeCatalog.Command

/-- The name of a file of settings. -/
def settingsFile : String := ".habconf.yaml"

/-- Why a run ends without success. A refusal of the system at an unexpected point has no message.
-/
inductive Failure
  | noDirectory (path : String)
  | alreadyThere (path : String)
  | settings (f : Settings.Failure)
  | database (f : Database.Failure)
  | catalog (f : CatalogFault)
  | exporting (f : ExportFault)
  | system (f : SystemFault)
deriving Repr

/-- The failure in words, if it has any. -/
def Failure.message? : Failure → Option String
  | .noDirectory path => some s!"directory '{path}' does not exist."
  | .alreadyThere path => some s!"configuration already exists at '{path}'."
  | .settings (.fault f) => some f.message
  | .database (.fault f) => some f.message
  | .catalog (.filterLimit _) => none
  | .catalog f => some f.message
  | .exporting f => some f.message
  | .settings _ | .database _ | .system _ => none

/-- The failure in words; where it has none of its own, it is told that there is one. -/
def Failure.words : Failure → String
  | .system f => f.message
  | f => f.message?.getD "the input cannot be used."

/-- A part of a run: it asks the disk, says lines, and gives a value or fails. -/
abbrev Session := ExceptT Failure (StateT (List String) Task)

namespace Session

/-- Say a line. -/
def say (line : String) : Session Unit :=
  modify (· ++ [line])

/-- Say a line if that is wanted. -/
def sayIf (wanted : Bool) (line : String) : Session Unit :=
  if wanted then say line else pure ()

/-- The value of a task; its faults are failures of the run. -/
def carryOut {ε α : Type} (failure : ε → Failure) (t : Task (Except ε α)) : Session α :=
  ExceptT.mk (StateT.lift (t.liftFault failure))

/-- A value that is there already, or a failure. -/
def accept {ε α : Type} (failure : ε → Failure) (x : Except ε α) : Session α :=
  carryOut failure (pure x)

/-- Carry a session out: the lines it says, how it ends, and the disk afterwards. -/
def run {α : Type} (s : Session α) (d : Disk) : (Except Failure α × List String) × Disk :=
  Task.run (StateT.run (ExceptT.run s) []) d

end Session

open Session

/-- The directory that an argument names, as an absolute path; there has to be something. -/
def baseDirectory (argument : String) : Session Path := do
  let workingDirectory ← carryOut (.system ·) do
    return .ok (← Task.request .workingDirectory)
  let directory := (Path.ofString argument).resolve workingDirectory
  if ← carryOut .system (Task.entryExists directory) then return directory
  else throw (.noDirectory directory.text)

/-- Write the default settings to a directory that has none. -/
def init (directory : String) : Session Unit := do
  let directory ← baseDirectory directory
  let file := directory.entry settingsFile
  if ← carryOut .system (Task.entryExists file) then throw (.alreadyThere file.text)
  else
    carryOut .system (Task.request (.write file (Text.encodeUtf8 Settings.defaultText)))
    say s!"Initialized habconf configuration at '{file.text}'."

/-- The value of an argument that is given and not empty. -/
def nonempty? (argument : Option String) : Option String :=
  argument.filter fun s => !s.isEmpty

/-- The settings for a directory: those of a named file, or of the directory's own, or the defaults.
-/
def settingsFor (lib : Library) (directory : Path) (config : Option String) : Session Settings := do
  match nonempty? config with
  | some file => carryOut .settings (Settings.load lib (Path.ofString file))
  | none =>
    let file := directory.entry settingsFile
    if ← carryOut .system (Task.entryExists file) then carryOut .settings (Settings.load lib file)
    else return {}

/-- A folder that an argument names, or else one that the settings name below a directory. -/
def folder (directory : Path) (argument : Option String) (setting : String) : Path :=
  match nonempty? argument with
  | some s => Path.ofString s
  | none => directory.entry setting

/-- How many records there are. -/
def recordCounts (r : RecordSet) : String :=
  s!"  {r.devices.length} device record(s), {r.vars.length} variable record(s), " ++
    s!"{r.links.length} link record(s), {r.notes.length} annotation record(s)"

/-- How many parts a catalog has. -/
def catalogCounts (c : Catalog) : String :=
  let children := (c.containers.flatMap (·.children)).length
  s!"Built {c.containers.length} container(s) with {children} child device(s), " ++
    s!"{c.devices.length} standalone device(s), {c.vars.length} variable(s)."

/-- Convert a database. -/
def convert (lib : Library) (a : ConvertArguments) : Session Unit := do
  let directory ← baseDirectory a.directory
  let settings ← settingsFor lib directory a.config
  let input := folder directory a.input settings.inputDirectory.string
  let output := folder directory a.output settings.outputDirectory.string
  let layout := { settings.layout with
    includeDefaultEndpoints := a.includeDefaultEndpoints || settings.includeDefaultEndpoints }
  let filter ← accept .catalog
    (NameFilter.ofText? lib.named ((a.filter.map .ofString).or settings.nameFilter))
  sayIf a.verbose s!"Reading JSON database from '{input.text}'..."
  let records ← carryOut .database (Database.load input)
  sayIf a.verbose (recordCounts records)
  if let some f := filter then sayIf a.verbose s!"  name filter: {f.text.string}"
  let catalog ← accept .catalog (Catalog.ofRecords (NameFilter.selects filter) records)
  sayIf a.verbose (catalogCounts catalog)
  catalog.warnings.forM fun w => say s!"Warning: {w.message}"
  let (devices, vars) ←
    carryOut .exporting (exportCatalog catalog output layout settings.fileNames)
  say s!"Wrote devices to '{devices.text}'."
  say s!"Wrote variables to '{vars.text}'."

end HomeCatalog.Command
