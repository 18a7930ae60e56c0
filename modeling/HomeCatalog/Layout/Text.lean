import HomeCatalog.Entity.Basic
import HomeCatalog.Layout.Options

/-!
# The text of entities

The exact text that the platform reads: spaces, quotes and line ends matter. A bracketed list stands
on one line or takes one line for each item; texts are quoted with backslashes before quotes and
backslashes.
-/

namespace HomeCatalog

/-! ## Quoted texts and lists -/

/-- One character between quotes. -/
def quotedChar (c : Char) : List Char :=
  if c = '\\' ∨ c = '"' then ['\\', c] else [c]

/-- A text between double quotes. -/
def quote (s : String) : String :=
  String.ofList ('"' :: s.toList.flatMap quotedChar ++ ['"'])

/-- Read the rest of a quoted text after its opening quote: a backslash stands for the character
after it, and the first quote without one ends the text. -/
def unquoteRest : List Char → Option (List Char × List Char)
  | [] => none
  | '"' :: rest => some ([], rest)
  | '\\' :: c :: rest => (unquoteRest rest).map fun r => (c :: r.1, r.2)
  | '\\' :: [] => none
  | c :: rest => (unquoteRest rest).map fun r => (c :: r.1, r.2)

/-- Read a quoted text at the beginning of some characters: what it says, and what follows it. -/
def unquote? : List Char → Option (List Char × List Char)
  | '"' :: rest => unquoteRest rest
  | _ => none

/-- Spaces at the beginning of a line; none for an indentation below zero. -/
def pad (indent : Int) : String :=
  String.ofList (List.replicate indent.toNat ' ')

/-- Lines with a line end and the margin of the next between each two, and a comma before it. -/
def commaLines (newline margin : String) : List String → String
  | [] => ""
  | [item] => margin ++ item
  | item :: rest => margin ++ item ++ "," ++ newline ++ commaLines newline margin rest

/-- Items between brackets, on one line or on lines of their own; nothing if there are none. -/
def bracketed (opening closing newline : String) (indent : Int) (inline : Bool)
    (items : List String) : String :=
  if items.isEmpty then ""
  else if inline then opening ++ " " ++ ", ".intercalate items ++ " " ++ closing
  else opening ++ newline ++ commaLines newline (pad (indent + 2)) items ++ newline ++
    pad indent ++ closing

/-- A part of a line and the space before it; nothing if the part is empty. -/
def spaced (s : String) : String :=
  if s.isEmpty then "" else " " ++ s

/-- A quoted text with what leads to it, if there is a text. -/
def labelled (lead : String) (s : Option String) : String :=
  match given s with
  | some s => lead ++ quote s
  | none => ""

/-! ## Values -/

/-- A literal, quoted in metadata; it holds nothing that needs a backslash. -/
def literal (metadata : Bool) (s : String) : String :=
  if metadata then "\"" ++ s ++ "\"" else s

/-- The text of a value. A decimal is normalized; the checks of `Value.make` see to it that there is
a normal form. -/
def Value.render (v : Value) : String :=
  match v.kind with
  | .int => Text.strip v.raw
  | .decimal =>
    match normalizeDecimal v.raw with
    | .ok s => literal v.metadata s
    | .error _ => ""
  | .bool => literal v.metadata (Text.lower (Text.strip v.raw))
  | .string => quote v.raw
  | .unknown => v.raw

/-- A value with its name. -/
def Value.assignment (v : Value) : String :=
  v.name ++ "=" ++ v.render

/-- Values in square brackets; nothing if there are none. -/
def renderProperties (newline : String) (indent : Int) (inline : Bool) (vs : ValueList) : String :=
  bracketed "[" "]" newline indent inline (vs.map Value.assignment)

/-! ## Devices -/

/-- One line for an endpoint, or nothing if it has no properties and such endpoints are left out. -/
def Endpoint.render (o : LayoutOptions) (indent : Int) (e : Endpoint) : String :=
  if e.properties.isEmpty && !o.includeDefaultEndpoints then ""
  else
    pad indent ++ e.displayKind ++ " " ++ e.declaredType ++ " : " ++ e.id ++
      labelled " " e.displayName ++
      spaced (renderProperties o.newline indent o.endpointPropertiesInline e.properties) ++
      o.newline

/-- The block of the endpoints that are written; nothing if there are none. -/
def renderEndpoints (o : LayoutOptions) (indent : Int) (es : List Endpoint) : String :=
  let lines := (es.map (Endpoint.render o (indent + 4))).filter (!·.isEmpty)
  if lines.isEmpty then ""
  else " \x7b" ++ o.newline ++ pad (indent + 2) ++ "Endpoints:" ++ o.newline ++ String.join lines ++
    pad indent ++ "\x7d"

/-- The name of a device: short inside the block of its container, and with its namespace on its
own. -/
def Device.header (o : LayoutOptions) (isChild : Bool) (d : Device) : String :=
  if isChild then d.typeId ++ " " ++ d.deviceId
  else d.namespaceId ++ ":" ++ o.typeIdFor d.namespaceId d.typeId ++ ":" ++ d.deviceId

/-- A device with its endpoints. On its own it is followed by an empty line. -/
def Device.render (o : LayoutOptions) (indent : Int) (isChild : Bool) (d : Device) : String :=
  pad indent ++ "Device " ++ d.header o isChild ++ labelled " " d.displayName ++
    labelled " @ " d.location ++
    spaced (renderProperties o.newline indent o.devicePropertiesInline d.properties) ++
    renderEndpoints o indent d.endpoints ++ o.newline ++ (if isChild then "" else o.newline)

/-- The block of a container's children; nothing if there are none. -/
def renderChildren (o : LayoutOptions) (ds : List Device) : String :=
  if ds.isEmpty then ""
  else " \x7b" ++ o.newline ++ String.join (ds.map (Device.render o 2 true)) ++ "\x7d"

/-- A container with its children, followed by an empty line. -/
def Container.render (o : LayoutOptions) (c : Container) : String :=
  "Container " ++ c.uid ++ labelled " " c.displayName ++ labelled " @ " c.location ++
    spaced (renderProperties o.newline 0 o.containerPropertiesInline c.properties) ++
    renderChildren o c.children ++ o.newline ++ o.newline

/-! ## Variables -/

/-- A link, on the line that it begins or on lines of its own. -/
def Link.render (newline : String) (indent : Int) (inline : Bool) (l : Link) : String :=
  "channel=" ++ quote l.endpointId ++ spaced (renderProperties newline indent inline l.properties)

/-- A note, on the line that it begins or on lines of its own. -/
def Note.render (newline : String) (indent : Int) (inline : Bool) (a : Note) : String :=
  a.namespaceId ++ "=" ++ quote a.value ++
    spaced (renderProperties newline indent inline a.properties)

/-- What is attached to a variable. -/
def Entry.render (newline : String) (indent : Int) (inline : Bool) : Entry → String
  | .link l => l.render newline indent inline
  | .note a => a.render newline indent inline

/-- The parameters of a group's function; those of a count are one quoted text. -/
def renderParameters (function : String) (parameters : List String) : String :=
  if parameters.isEmpty then ""
  else
    let all := ",".intercalate parameters
    if Text.upper function == "COUNT" then quote all else "(" ++ all ++ ")"

/-- What follows the type of a group: its base type, its function and the function's parameters. -/
def Variable.groupSuffix (v : Variable) : String :=
  match given v.baseType with
  | none => ""
  | some base =>
    ":" ++ base ++
      match given v.function with
      | none => ""
      | some function => ":" ++ function ++ renderParameters function v.parameters

/-- A variable with what is attached to it. -/
def Variable.render (o : LayoutOptions) (v : Variable) : String :=
  v.dataType ++ v.groupSuffix ++ " " ++ v.name ++ labelled " " v.displayName ++
    (match given v.iconName with
      | some icon => " <" ++ icon ++ ">"
      | none => "") ++
    (if v.groups.isEmpty then "" else " ( " ++ ", ".intercalate v.groups ++ " )") ++
    (if v.tags.isEmpty then "" else " [ " ++ ", ".intercalate (v.tags.map quote) ++ " ]") ++
    spaced (bracketed "\x7b" "\x7d" o.newline 0 o.variableEntriesInline
      (v.entries.map (Entry.render o.newline 2 o.variableEntriesInline))) ++ o.newline

end HomeCatalog
