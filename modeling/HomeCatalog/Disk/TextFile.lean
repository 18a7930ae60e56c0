import HomeCatalog.Disk.Task
import HomeCatalog.Text.Lines
import HomeCatalog.Text.Utf8

/-!
# Text files

A text file is read as a whole: its bytes are UTF-8, and its lines may end in any of three ways.
-/

namespace HomeCatalog

/-- Why the text of a file cannot be had. -/
inductive TextFileFault
  | system (fault : SystemFault)
  | encoding (fault : Text.Utf8Fault)
deriving DecidableEq, Repr

/-- The fault in words. -/
def TextFileFault.message : TextFileFault → String
  | .system f => f.message
  | .encoding f => f.message

/-- The text of decoded bytes, its lines ended by line feeds. -/
def textOfBytes (decode : List UInt8 → Except Text.Utf8Fault (List Char)) (bytes : List UInt8) :
    Except TextFileFault String :=
  match decode bytes with
  | .error f => .error (.encoding f)
  | .ok cs => .ok (String.ofList (Text.unifyLineEnds cs))

/-- The text of a file. -/
def Task.readText (decode : List UInt8 → Except Text.Utf8Fault (List Char)) (p : Path) :
    Task (Except TextFileFault String) := do
  match ← request (.read p) with
  | .error f => return .error (.system f)
  | .ok bytes => return textOfBytes decode bytes

end HomeCatalog
