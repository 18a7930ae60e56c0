import HomeCatalog.Pattern.Reader
import HomeCatalog.Pattern.Search
import HomeCatalog.Text.Split

/-!
# Arguments

What the arguments of a command line ask for. A switch may be shortened as long as it stays the only
one that begins so, and its value may be joined to it by an equals sign. Two dashes end the
switches. Arguments are read one after the other, so help that is asked for first is given whatever
follows; only a switch that could be several is refused beforehand.
-/

namespace HomeCatalog.Command

/-- What a switch asks for. -/
inductive Switch
  | help
  | config
  | input
  | output
  | filter
  | includeDefaultEndpoints
  | verbose
deriving DecidableEq, Repr

/-- Whether a value follows the switch. -/
def Switch.takesValue : Switch → Bool
  | config | input | output | filter => true
  | help | includeDefaultEndpoints | verbose => false

/-- The names of switches. -/
abbrev SwitchNames := List (String × Switch)

/-- The switches that are known everywhere. -/
def commonNames : SwitchNames :=
  [("-h", .help), ("--help", .help)]

/-- The switches of a conversion. -/
def convertNames : SwitchNames :=
  commonNames ++
    [("--config", .config), ("--input", .input), ("--output", .output), ("--filter", .filter),
     ("--include-default-endpoints", .includeDefaultEndpoints), ("--verbose", .verbose)]

/-! ## Words -/

/-- What one argument is. -/
inductive Word
  | plain (s : String)
  /-- A switch by a name or by its beginning, and the text joined to it by an equals sign. -/
  | named (s : Switch) (joined : Option String)
  /-- A switch by its letter, and the letters that follow. -/
  | letters (s : Switch) (rest : List Char)
  /-- A switch that there is not. -/
  | unknown
deriving DecidableEq, Repr

/-- A number below zero, which is no switch. -/
def negativeNumber : Pattern.Node :=
  (Pattern.Node.ofString? r"^-\d+$|^-\d*\.\d+$").getD .never

/-- A text up to its first equals sign, and what follows that. -/
def splitJoined (s : String) : String × Option String :=
  match Text.pieces '=' s.toList with
  | name :: part :: parts =>
    (String.ofList name, some (String.ofList (Text.joined '=' (part :: parts))))
  | _ => (s, none)

/-- The switches that an argument may stand for which is the name of none. -/
def candidates (names : SwitchNames) (arg : String) : List Word :=
  let (name, joined) := splitJoined arg
  if name.startsWith "--" then
    (names.filter fun n => n.1.startsWith name).map fun n => .named n.2 joined
  else
    (names.filter fun n => n.1 = String.ofList (arg.toList.take 2)).map fun n =>
      .letters n.2 (arg.toList.drop 2)

/-- What an argument is; nothing if it could be several switches. -/
def word? (names : SwitchNames) (arg : String) : Option Word :=
  let (name, joined) := splitJoined arg
  if !arg.startsWith "-" || arg.length = 1 then some (.plain arg)
  else match names.lookup arg, names.lookup name with
    | some s, _ => some (.named s none)
    | none, some s => some (.named s joined)
    | none, none =>
      match candidates names arg with
      | [] =>
        if (negativeNumber.captures? arg).isSome || arg.contains ' ' then some (.plain arg)
        else some .unknown
      | [w] => some w
      | _ => none

/-! ## Reading -/

/-- Why arguments ask for nothing to be done. -/
inductive Stop
  | help
  | misuse
deriving DecidableEq, Repr

/-- What arguments have given so far. -/
structure Given where
  directory : Option String := none
  /-- Whether the directory was the last argument. -/
  directoryIsLast : Bool := false
  /-- The switches with their values, the last first. -/
  switches : List (Switch × String) := []
  /-- Whether some argument was of no use. -/
  leftover : Bool := false
deriving Repr

namespace Given

/-- A switch with its value given. -/
def withSwitch (g : Given) (s : Switch) (value : String) : Given :=
  { g with switches := (s, value) :: g.switches, directoryIsLast := false }

/-- An argument that is no switch given: the first is the directory. -/
def withPlain (g : Given) (s : String) : Given :=
  match g.directory with
  | none => { g with directory := some s, directoryIsLast := true }
  | some _ => { g with leftover := true, directoryIsLast := false }

/-- The arguments after two dashes given, none of which is a switch. -/
def withRest (g : Given) (rest : List String) : Given :=
  match rest with
  | [] => if g.directory.isSome && !g.directoryIsLast then { g with leftover := true } else g
  | _ => rest.foldl withPlain g

/-- The value of a switch that is given, the last one if there are several. -/
def value? (g : Given) (s : Switch) : Option String :=
  g.switches.lookup s

end Given

/-- What the letters after that for help ask for. A letter of no switch does not keep the help back,
but no dash may follow, and no equals sign. -/
def helpLetters : List Char → Stop
  | [] => .help
  | '-' :: _ => .misuse
  | 'h' :: '=' :: _ => .misuse
  | 'h' :: rest => helpLetters rest
  | _ :: _ => .help

/-- What words give after others. -/
def readWords (g : Given) : List Word → Except Stop Given
  | [] => .ok g
  | .plain s :: rest => readWords (g.withPlain s) rest
  | .unknown :: rest => readWords { g with leftover := true, directoryIsLast := false } rest
  | .letters _ more :: _ => .error (helpLetters more)
  | .named .help none :: _ => .error .help
  | .named s (some joined) :: rest =>
    if s.takesValue then readWords (g.withSwitch s joined) rest else .error .misuse
  | .named s none :: rest =>
    if s.takesValue then
      match rest with
      | .plain v :: rest => readWords (g.withSwitch s v) rest
      | _ => .error .misuse
    else readWords (g.withSwitch s "") rest

/-- What the arguments of a command give. -/
def given (names : SwitchNames) (args : List String) : Except Stop Given :=
  match (args.takeWhile (· ≠ "--")).mapM (word? names) with
  | none => .error .misuse
  | some words =>
    match readWords {} words with
    | .error e => .error e
    | .ok g =>
      let g := match args.dropWhile (· ≠ "--") with
        | [] => g
        | _ :: rest => g.withRest rest
      if g.leftover then .error .misuse else .ok g

/-! ## Commands -/

/-- What a conversion is asked to do. -/
structure ConvertArguments where
  directory : String := "."
  config : Option String := none
  input : Option String := none
  output : Option String := none
  filter : Option String := none
  includeDefaultEndpoints : Bool := false
  verbose : Bool := false
deriving DecidableEq, Repr

/-- What a command line asks for. -/
inductive Invocation
  | help
  | misuse
  | init (directory : String)
  | convert (a : ConvertArguments)
deriving DecidableEq, Repr

/-- What arguments ask for that give nothing to do. -/
def Invocation.ofStop : Stop → Invocation
  | .help => help
  | .misuse => misuse

/-- What the arguments of a command ask for. -/
def commandOf (name : String) (args : List String) : Invocation :=
  match name with
  | "init" =>
    match given commonNames args with
    | .error e => .ofStop e
    | .ok g => .init (g.directory.getD ".")
  | "convert" =>
    match given convertNames args with
    | .error e => .ofStop e
    | .ok g =>
      .convert
        { directory := g.directory.getD ".", config := g.value? .config, input := g.value? .input,
          output := g.value? .output, filter := g.value? .filter,
          includeDefaultEndpoints := (g.value? .includeDefaultEndpoints).isSome,
          verbose := (g.value? .verbose).isSome }
  | _ => .misuse

/-- What a command line asks for after arguments of which some were of no use. -/
def invocationFrom (leftover : Bool) : List String → Invocation
  | [] => if leftover then .misuse else .help
  | arg :: rest =>
    if arg = "--" then .misuse
    else match word? commonNames arg with
      | none => .misuse
      | some .unknown => invocationFrom true rest
      | some (.letters _ more) => .ofStop (helpLetters more)
      | some (.named _ none) => .help
      | some (.named _ (some _)) => .misuse
      | some (.plain name) =>
        match commandOf name rest with
        | .help => .help
        | i => if leftover then .misuse else i

/-- What a command line asks for. -/
def invocation (args : List String) : Invocation :=
  invocationFrom false args

end HomeCatalog.Command
