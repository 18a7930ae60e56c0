import HomeCatalog.Command.Program
import HomeCatalog.Library.Own

/-!
# The machine

Carries out on the disk of the machine what the arguments ask for.
-/

namespace HomeCatalog.Machine

/-- The number and the words of the system for a failed operation. -/
def errorDetails : IO.Error → Nat × String
  | .alreadyExists _ n s | .interrupted _ n s | .noFileOrDirectory _ n s
  | .invalidArgument _ n s | .permissionDenied _ n s | .resourceExhausted _ n s
  | .inappropriateType _ n s | .noSuchThing _ n s => (n.toNat, s)
  | .otherError n s | .resourceBusy n s | .resourceVanished n s | .unsupportedOperation n s
  | .hardwareFault n s | .unsatisfiedConstraints n s | .illegalOperation n s
  | .protocolError n s | .timeExpired n s => (n.toNat, s)
  | .unexpectedEof => (0, "end of file")
  | .userError s => (0, s)

/-- The cause of a failed operation. -/
def refusal (e : IO.Error) : Refusal :=
  let (number, words) := errorDetails e
  let known := [Refusal.noSuchEntry, .busy, .entryExists, .notDirectory, .isDirectory, .nameTooLong]
  (known.find? (·.number = number)).getD ⟨number, words⟩

/-- The outcome of an operation on some paths. -/
def attempt {α : Type} (path : Path) (target : Option Path) (operation : IO α) :
    IO (Except SystemFault α) := do
  try return .ok (← operation)
  catch e => return .error ⟨refusal e, path.text, target.map Path.text⟩

/-- The bits that new files are taken to lack. -/
def withheld : Nat := 0o022

/-- What stands at a path. A file's mode cannot be seen and is taken to be that of a new one. -/
def inspect (path : Path) : IO (Except SystemFault Node) := do
  let found ← attempt path none do
    let handle ← IO.FS.Handle.mk path.text .read
    let _ ← handle.read 1
    return Node.file [] (withoutBits 0o666 withheld)
  match found with
  | .error f =>
    return if f.cause = .isDirectory then .ok (.directory (withoutBits 0o777 withheld))
      else .error f
  | found => return found

/-- The rights that three bits of a mode stand for. -/
def accessRight (bits : Nat) : IO.AccessRight :=
  { read := bits / 4 % 2 = 1, write := bits / 2 % 2 = 1, execution := bits % 2 = 1 }

/-- The rights that a mode stands for. -/
def fileRight (mode : Nat) : IO.FileRight :=
  { user := accessRight (mode / 64), group := accessRight (mode / 8), other := accessRight mode }

/-- The names that lead to the working directory. -/
def workingDirectory : IO (List String) := do
  return (Path.ofString (← IO.currentDir).toString).parts

/-- Eight characters by chance. -/
def randomEnding : IO String := do
  let characters ← (List.range 8).mapM fun _ => do
    return Nat.digitChar (← IO.rand 0 15)
  return String.ofList characters

/-- The answer of the machine to a request. -/
def answer : (r : Request) → IO r.Answer
  | .inspect p => inspect p
  | .read p => attempt p none do
    return (← IO.FS.readBinFile p.text).toList
  | .makeDirectory p => attempt p none (IO.FS.createDir p.text)
  | .makeTemporary directory stem => do
    let directory := directory.resolve (← workingDirectory)
    let p := { directory with parts := directory.parts ++ [stem ++ (← randomEnding)] }
    attempt p none do
      let _ ← IO.FS.Handle.mk p.text .writeNew
      IO.setAccessRights p.text (fileRight 0o600)
      return p
  | .write p bytes => attempt p none (IO.FS.writeBinFile p.text ⟨bytes.toArray⟩)
  | .setMode p mode => attempt p none (IO.setAccessRights p.text (fileRight mode))
  | .replace p target => attempt p (some target) (IO.FS.rename p.text target.text)
  | .remove p => attempt p none (IO.FS.removeFile p.text)
  | .setWithheld _ => return withheld
  | .workingDirectory => workingDirectory

/-- Carry a task out on the machine. -/
def perform {α : Type} : Task α → IO α
  | .done a => return a
  | .ask r next => do perform (next (← answer r))

end HomeCatalog.Machine

open HomeCatalog in
/-- Do what the arguments ask for, print what is said, and tell how it ended. -/
def main (args : List String) : IO UInt32 := do
  let report ← Machine.perform (Command.program .own args)
  report.said.forM fun line => IO.println line
  IO.eprint report.complaint
  return report.status.toUInt32
