import HomeCatalog.Disk.TextFile
import HomeCatalog.Json.Reader
import HomeCatalog.Record

/-!
# Database faults

Why a database cannot be used. A fault of the database has a message; a number that cannot be held
and an unexpected refusal of the system end the reading without one.
-/

namespace HomeCatalog.Database

/-- What is wrong with a database. -/
inductive Fault
  | noFolder (folder : String)
  | noFiles (folder : String)
  | unreadable (file : String) (reason : TextFileFault)
  | malformed (label : String) (problem : Json.Problem) (line column offset : Nat)
  | notAnObject (label : String)
  | recordNotAnObject (label record : String)
  | definition (reason : Property.DefinitionFault)
deriving DecidableEq, Repr

/-- The fault in words. -/
def Fault.message : Fault → String
  | .noFolder folder => s!"Database folder not found: {folder}"
  | .noFiles folder => s!"No JSON database files found in '{folder}'"
  | .unreadable file reason => s!"Cannot read database file '{file}': {reason.message}"
  | .malformed label problem line column offset =>
    s!"Invalid JSON in {label}: {Json.located problem line column offset}"
  | .notAnObject label => s!"{label}: database document must be a JSON object"
  | .recordNotAnObject label record => s!"{label}: record '{record}' must be a JSON object"
  | .definition reason => reason.message

/-- Why reading a database ends without records. -/
inductive Failure
  | fault (f : Fault)
  | number (f : Json.NumberFault)
  | system (f : SystemFault)
deriving DecidableEq, Repr

end HomeCatalog.Database
