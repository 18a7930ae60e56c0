import HomeCatalog.Disk.Path
import HomeCatalog.Text.Shown

/-!
# Disks

A disk is a tree of files and directories together with what the operating system adds to it: a
working directory, the bits that new files lack, and the ending of temporary file names. A program
asks the disk by `Request`s; `Disk.answer` answers one and gives the disk as it is afterwards.

Any request but a removal may be refused by `Disk.refuses`, so that a statement about a program can
speak of failing steps.

Two things that real disks know are not in the tree. There are no symbolic links, so two paths lead
to one entry only if they lead to one place. And a name is any text without a slash: U+0000 is a
character like others, where an operating system takes no name that holds it.
-/

namespace HomeCatalog

/-- A file or a directory, with its mode. A symbolic link is neither and does not occur. -/
inductive Node
  | file (bytes : List UInt8) (mode : Nat)
  | directory (mode : Nat)
deriving DecidableEq, Repr

namespace Node

/-- The permission bits. -/
def mode : Node → Nat
  | file _ m => m
  | directory m => m

/-- Whether the node is a directory. -/
def isDirectory : Node → Bool
  | directory _ => true
  | file _ _ => false

/-- The node with other permission bits. -/
def withMode (mode : Nat) : Node → Node
  | file bytes _ => file bytes mode
  | directory _ => directory mode

end Node

/-- A tree of files: what stands at each place, a place being the names that lead to it from the
top. -/
abbrev FileTree := List (List String × Node)

namespace FileTree

/-- What stands at a place; the top is always a directory. -/
def node? (t : FileTree) (place : List String) : Option Node :=
  if place.isEmpty then some (.directory 0o755) else t.lookup place

/-- The tree without what stands at a place. -/
def erase (t : FileTree) (place : List String) : FileTree :=
  t.filter fun e => e.1 != place

/-- The tree with a node put at a place. -/
def put (t : FileTree) (place : List String) (n : Node) : FileTree :=
  (place, n) :: t.erase place

end FileTree

/-- A cause for which the operating system refuses a request. -/
structure Refusal where
  number : Nat
  words : String
deriving DecidableEq, Repr

namespace Refusal

/-- Nothing stands at a path. -/
def noSuchEntry : Refusal := ⟨2, "No such file or directory"⟩

/-- An entry that the system needs as it is. -/
def busy : Refusal := ⟨16, "Device or resource busy"⟩

/-- Something stands at a path that has to be free. -/
def entryExists : Refusal := ⟨17, "File exists"⟩

/-- A file stands where a directory is wanted. -/
def notDirectory : Refusal := ⟨20, "Not a directory"⟩

/-- A directory stands where a file is wanted. -/
def isDirectory : Refusal := ⟨21, "Is a directory"⟩

/-- A name has more bytes than an entry's may. -/
def nameTooLong : Refusal := ⟨36, "File name too long"⟩

end Refusal

namespace FileTree

/-- The most bytes that a file name may have. -/
def maxNameBytes : Nat := 255

/-- One more name on the way from a place, which has to be a directory. A name is refused for its
length only; U+0000 in it is not looked for. -/
def enter (t : FileTree) (place : List String) (name : String) : Except Refusal (List String) :=
  match t.node? place with
  | none => .error .noSuchEntry
  | some (.file _ _) => .error .notDirectory
  | some (.directory _) =>
    if name.utf8ByteSize > maxNameBytes then .error .nameTooLong else .ok (Path.step place name)

/-- The place that names lead to, entry by entry. -/
def follow (t : FileTree) (place : List String) : List String → Except Refusal (List String)
  | [] => .ok place
  | name :: rest =>
    match t.enter place name with
    | .error e => .error e
    | .ok next => t.follow next rest

end FileTree

/-- A refused request: the cause and the paths concerned. -/
structure SystemFault where
  cause : Refusal
  path : String
  target : Option String := none
deriving DecidableEq, Repr

/-- The fault in words. -/
def SystemFault.message (f : SystemFault) : String :=
  let paths := match f.target with
    | none => Text.shown f.path
    | some t => Text.shown f.path ++ " -> " ++ Text.shown t
  s!"[Errno {f.cause.number}] {f.cause.words}: {paths}"

/-- What a program may ask of a disk. -/
inductive Request
  /-- What stands at a path. -/
  | inspect (p : Path)
  /-- The bytes of a file. -/
  | read (p : Path)
  /-- A new directory. -/
  | makeDirectory (p : Path)
  /-- A new empty file in a directory, for the caller alone; the answer is its path. -/
  | makeTemporary (directory : Path) (stem : String)
  /-- The whole content of a file, made new if there is none. -/
  | write (p : Path) (bytes : List UInt8)
  /-- The permission bits of a file. -/
  | setMode (p : Path) (mode : Nat)
  /-- One file put in the place of another. -/
  | replace (p target : Path)
  /-- A file taken away. -/
  | remove (p : Path)
  /-- Other bits that new files are to lack; the answer is those they lacked before. -/
  | setWithheld (bits : Nat)
  /-- The names that lead to the working directory from the top. -/
  | workingDirectory

/-- The answer to a request. -/
abbrev Request.Answer : Request → Type
  | .inspect _ => Except SystemFault Node
  | .read _ => Except SystemFault (List UInt8)
  | .makeTemporary _ _ => Except SystemFault Path
  | .setWithheld _ => Nat
  | .workingDirectory => List String
  | _ => Except SystemFault Unit

/-- A mode without some bits. -/
def withoutBits (mode bits : Nat) : Nat :=
  mode - (mode &&& bits)

/-- A disk and its surroundings. -/
structure Disk where
  tree : FileTree
  workingDirectory : List String := []
  /-- The bits that new files and directories lack. -/
  withheld : Nat := 0o022
  /-- The end of the name of the next temporary file. -/
  temporaryEnding : String := "00000000"
  /-- The requests that fail for causes outside the tree. -/
  refuses : Request → Option Refusal := fun _ => none

namespace Disk

/-- The mode of a new file or directory. -/
def grantedMode (d : Disk) (mode : Nat) : Nat :=
  withoutBits mode d.withheld

/-- The place that a path leads to; something need not stand there yet. -/
def locate (d : Disk) (p : Path) : Except Refusal (List String) :=
  d.tree.follow (if p.root.isEmpty then d.workingDirectory else []) p.parts

/-- The place that a path leads to and what stands there. -/
def find (d : Disk) (p : Path) : Except Refusal (List String × Node) :=
  match d.locate p with
  | .error e => .error e
  | .ok place =>
    match d.tree.node? place with
    | none => .error .noSuchEntry
    | some n => .ok (place, n)

/-- The path of the next temporary file in a directory. -/
def temporaryPath (d : Disk) (directory : Path) (stem : String) : Path :=
  let directory := directory.resolve d.workingDirectory
  { directory with parts := directory.parts ++ [stem ++ d.temporaryEnding] }

/-- The path that a request is about. -/
def subject (d : Disk) : Request → Path
  | .inspect p | .read p | .makeDirectory p | .write p _ | .setMode p _ | .remove p => p
  | .replace p _ => p
  | .makeTemporary directory stem => d.temporaryPath directory stem
  | .setWithheld _ | .workingDirectory => ⟨"", []⟩

/-- The path that a request has besides its subject. -/
def target? : Request → Option Path
  | .replace _ target => some target
  | _ => none

/-- The fault of a request that is refused. -/
def fault (d : Disk) (r : Request) (cause : Refusal) : SystemFault :=
  ⟨cause, (d.subject r).text, (target? r).map Path.text⟩

/-- Put something new at a path, where nothing may be. -/
def makeNew (d : Disk) (p : Path) (n : Node) : Except Refusal FileTree :=
  match d.locate p with
  | .error e => .error e
  | .ok place =>
    match d.tree.node? place with
    | some _ => .error .entryExists
    | none => .ok (d.tree.put place n)

/-- Give a file its whole content. -/
def write (d : Disk) (p : Path) (bytes : List UInt8) : Except Refusal FileTree :=
  match d.locate p with
  | .error e => .error e
  | .ok place =>
    match d.tree.node? place with
    | some (.directory _) => .error .isDirectory
    | some (.file _ mode) => .ok (d.tree.put place (.file bytes mode))
    | none => .ok (d.tree.put place (.file bytes (d.grantedMode 0o666)))

/-- Whether the last name of a path is one that an entry can have. -/
def isEntryPath (p : Path) : Bool :=
  !p.parts.isEmpty && p.name != ".."

/-- Put one file in the place of another. -/
def replace (d : Disk) (p target : Path) : Except Refusal FileTree :=
  match d.find p with
  | .error e => .error e
  | .ok (place, n) =>
    match d.locate target with
    | .error e => .error e
    | .ok targetPlace =>
      if !isEntryPath target then .error .busy
      else match d.tree.node? targetPlace with
        | some (.directory _) => .error .isDirectory
        | _ => .ok ((d.tree.erase place).put targetPlace n)

/-- The answer to a request whose success gives nothing but another tree. -/
def settle (d : Disk) (r : Request) (result : Except Refusal FileTree) :
    Except SystemFault Unit × Disk :=
  match result with
  | .error cause => (.error (d.fault r cause), d)
  | .ok tree => (.ok (), { d with tree })

/-- The answer to a request that leaves the disk as it is. -/
def report {α : Type} (d : Disk) (r : Request) (result : Except Refusal α) :
    Except SystemFault α × Disk :=
  match result with
  | .error cause => (.error (d.fault r cause), d)
  | .ok a => (.ok a, d)

/-- A result, unless the request is refused for a cause outside the tree. -/
def unlessRefused {α : Type} (d : Disk) (r : Request) (result : Except Refusal α) :
    Except Refusal α :=
  match d.refuses r with
  | some cause => .error cause
  | none => result

/-- The bytes of a node that is a file. -/
def bytesOf : Node → Except Refusal (List UInt8)
  | .file bytes _ => .ok bytes
  | .directory _ => .error .isDirectory

/-- The answer to a request, and the disk afterwards. -/
def answer (d : Disk) : (r : Request) → r.Answer × Disk
  | .inspect p =>
    d.report (.inspect p) (d.unlessRefused (.inspect p) ((d.find p).map (·.2)))
  | .read p =>
    d.report (.read p) (d.unlessRefused (.read p) ((d.find p).bind fun e => bytesOf e.2))
  | .makeDirectory p =>
    d.settle (.makeDirectory p) (d.unlessRefused (.makeDirectory p)
      (d.makeNew p (.directory (d.grantedMode 0o777))))
  | .makeTemporary directory stem =>
    let r := Request.makeTemporary directory stem
    let p := d.temporaryPath directory stem
    match d.unlessRefused r (d.makeNew p (.file [] 0o600)) with
    | .error cause => (.error (d.fault r cause), d)
    | .ok tree => (.ok p, { d with tree })
  | .write p bytes =>
    d.settle (.write p bytes) (d.unlessRefused (.write p bytes) (d.write p bytes))
  | .setMode p mode =>
    d.settle (.setMode p mode) (d.unlessRefused (.setMode p mode)
      ((d.find p).map fun e => d.tree.put e.1 (e.2.withMode mode)))
  | .replace p target =>
    d.settle (.replace p target) (d.unlessRefused (.replace p target) (d.replace p target))
  | .remove p =>
    d.settle (.remove p) ((d.find p).map fun e => d.tree.erase e.1)
  | .setWithheld bits => (d.withheld, { d with withheld := bits })
  | .workingDirectory => (d.workingDirectory, d)

end Disk

end HomeCatalog
