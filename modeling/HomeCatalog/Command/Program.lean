import HomeCatalog.Command.Help
import HomeCatalog.Command.Run

/-!
# The program

`Command.program` does what the arguments of a command line ask for, and reports how that ended.
-/

namespace HomeCatalog.Command

/-- How the program ended. -/
structure Report where
  /-- The number that tells the end to the one who called the program. -/
  status : Nat
  /-- The texts on the standard output, each with a line end after it. -/
  said : List String := []
  /-- Why a run ended without success. -/
  failure : Option Failure := none

/-- The text on the standard error. -/
def Report.complaint (r : Report) : String :=
  match r.failure with
  | some f => "Error: " ++ f.words ++ "\n"
  | none => if r.status = 2 then usage else ""

/-- The report of a run that said some lines and ended so. -/
def Report.ofResult (said : List String) : Except Failure Unit → Report
  | .ok () => { status := 0, said }
  | .error f => { status := 1, said, failure := some f }

/-- Carry a session out and report how it ended. -/
def Session.report (s : Session Unit) : Task Report := do
  let (result, said) ← StateT.run (ExceptT.run s) []
  return .ofResult said result

/-- Do what the arguments ask for. -/
def program (lib : Library) (args : List String) : Task Report :=
  match invocation args with
  | .help => return { status := 0, said := [help] }
  | .misuse => return { status := 2 }
  | .init directory => (init directory).report
  | .convert a => (convert lib a).report

end HomeCatalog.Command
