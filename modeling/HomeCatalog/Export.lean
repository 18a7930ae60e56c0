import HomeCatalog.Disk.Task
import HomeCatalog.Layout.Streams

/-!
# Export

Both streams of a catalog are written to files in one directory. They are encoded before anything is
touched, and every file is written under a temporary name beside its place and moved there as a
whole, so nobody sees half of it. A file keeps the mode of the one it replaces.
-/

namespace HomeCatalog

/-- The names of the files that the streams are written to. -/
structure FileNames where
  devices : String := "habconf.things"
  vars : String := "habconf.items"
deriving DecidableEq, Repr

/-- Why a catalog is not exported. -/
inductive ExportFault
  | encoding (fault : EncodingFault)
  | directory (path : String) (fault : SystemFault)
  | file (path : String) (fault : SystemFault)
deriving DecidableEq, Repr

/-- The fault in words. -/
def ExportFault.message : ExportFault → String
  | .encoding f => f.message
  | .directory path f => s!"Cannot create output directory '{path}': {f.message}"
  | .file path f => s!"Cannot write '{path}': {f.message}"

namespace Export

/-- A directory that cannot be made is a fault unless it is there already. -/
def unlessDirectory (p : Path) (f : SystemFault) : Task (Except SystemFault Unit) :=
  (Task.isDirectory p).andThen fun there => return if there then .ok () else .error f

/-- Make a directory, if need be, in one that is there. -/
def makeDirectory (p : Path) : Task (Except SystemFault Unit) := do
  match ← Task.request (.makeDirectory p) with
  | .ok () => return .ok ()
  | .error f => if f.cause = .noSuchEntry then return .error f else unlessDirectory p f

/-- Make a directory and those above it, as far as they are missing. -/
def makeDirectories (p : Path) : Task (Except SystemFault Unit) := do
  match ← Task.request (.makeDirectory p) with
  | .ok () => return .ok ()
  | .error f =>
    if f.cause ≠ .noSuchEntry then unlessDirectory p f
    else if h : p.parts = [] then return .error f
    else
      have := p.length_parts_parent_lt h
      (makeDirectories p.parent).andThen fun _ => makeDirectory p
termination_by p.parts.length

/-- The mode for a file at a path: that of the file to be replaced, or that of a new one. The bits
that new files lack can only be seen by setting them. -/
def targetMode (target : Path) : Task (Except SystemFault Nat) := do
  match ← Task.request (.inspect target) with
  | .ok n => return .ok n.mode
  | .error f =>
    if f.cause = .noSuchEntry then
      let withheld ← Task.request (.setWithheld 0)
      let _ ← Task.request (.setWithheld withheld)
      return .ok (withoutBits 0o666 withheld)
    else return .error f

/-- Give a temporary file its content and its mode, and move it to its place. -/
def settle (temporary target : Path) (bytes : List UInt8) : Task (Except SystemFault Unit) :=
  (Task.request (.write temporary bytes)).andThen fun _ =>
  (targetMode target).andThen fun mode =>
  (Task.request (.setMode temporary mode)).andThen fun _ =>
  Task.request (.replace temporary target)

/-- Write a file as a whole, or leave nothing behind. -/
def writeFile (target : Path) (bytes : List UInt8) : Task (Except ExportFault Unit) := do
  match ← Task.request (.makeTemporary target.parent s!".{target.name}.") with
  | .error f => return .error (.file target.text f)
  | .ok temporary =>
    match ← settle temporary target bytes with
    | .ok () => return .ok ()
    | .error f =>
      let _ ← Task.request (.remove temporary)
      return .error (.file target.text f)

/-- Write encoded streams to their files in a directory. -/
def writeStreams (directory devices vars : Path) (devicesBytes variablesBytes : List UInt8) :
    Task (Except ExportFault Unit) :=
  ((makeDirectories directory).liftFault (.directory directory.text)).andThen fun _ =>
  (writeFile devices devicesBytes).andThen fun _ =>
  writeFile vars variablesBytes

end Export

/-- Write a catalog to files in a directory; the answer is the paths of both. -/
def exportCatalog (c : Catalog) (directory : Path) (o : LayoutOptions) (names : FileNames) :
    Task (Except ExportFault (Path × Path)) := do
  let devices := directory.entry names.devices
  let vars := directory.entry names.vars
  match encodeText devices.text (devicesText o c) with
  | .error f => return .error (.encoding f)
  | .ok devicesBytes =>
    match encodeText vars.text (variablesText o c) with
    | .error f => return .error (.encoding f)
    | .ok variablesBytes =>
      (Export.writeStreams directory devices vars devicesBytes variablesBytes).andThen
        fun _ => return .ok (devices, vars)

end HomeCatalog
