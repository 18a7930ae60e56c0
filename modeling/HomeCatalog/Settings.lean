import HomeCatalog.Disk.TextFile
import HomeCatalog.Export
import HomeCatalog.Layout.Options
import HomeCatalog.Library

/-!
# Settings

The settings of a conversion, kept in a YAML mapping. `Settings.ofText` reads them: every field has
a default, a field that is null keeps it, and fields that nothing is known of are faults. The fields
are looked at one after the other, and the first fault counts. The texts in them may have halves of
surrogate pairs; where they are put to use, as names of files and in the layout, the replacement
character stands for a half.
-/

namespace HomeCatalog

/-- Which lists stand on one line. -/
structure InlineSettings where
  containerProperties : Bool := false
  deviceProperties : Bool := false
  endpointProperties : Bool := true
  variableEntries : Bool := false
deriving DecidableEq, Repr

/-- The settings of a conversion. -/
structure Settings where
  /-- The folder of the database. -/
  inputDirectory : Letters := "jsondb"
  /-- The folder for the streams. -/
  outputDirectory : Letters := "conf"
  devicesFile : Letters := ({} : FileNames).devices
  variablesFile : Letters := ({} : FileNames).vars
  /-- The expression that selects records by name. -/
  nameFilter : Option Letters := none
  /-- Endpoints without properties are written too. -/
  includeDefaultEndpoints : Bool := false
  inline : InlineSettings := {}
  /-- Namespaces whose standalone devices have one fixed type id, and that id. -/
  vendorTypes : List (Letters × Letters) := ({} : LayoutOptions).vendorTypes.map fun p => (p.1, p.2)
deriving DecidableEq, Repr

namespace Settings

/-- The layout that the settings describe. -/
def layout (s : Settings) : LayoutOptions :=
  { containerPropertiesInline := s.inline.containerProperties,
    devicePropertiesInline := s.inline.deviceProperties,
    endpointPropertiesInline := s.inline.endpointProperties,
    variableEntriesInline := s.inline.variableEntries,
    includeDefaultEndpoints := s.includeDefaultEndpoints,
    vendorTypes := s.vendorTypes.map fun p => (p.1.string, p.2.string) }

/-- The names of the files that the streams are written to. -/
def fileNames (s : Settings) : FileNames :=
  { devices := s.devicesFile.string, vars := s.variablesFile.string }

/-- What is wrong with settings; `label` names the text that they are read from. -/
inductive Fault
  | missing (file : String)
  | unreadable (fault : SystemFault)
  | malformed (label : String)
  | notAMapping (label : String)
  | unknownFields (label : String) (names : List Letters)
  | notText (label field : String)
  | notTruth (label field : String)
  | nameFilter (label : String)
  | inlineNotAMapping (label : String)
  | unknownInlineFields (label : String) (names : List Letters)
  | vendorTypesNotAMapping (label : String)
  | vendorTypesNotTexts (label : String)
deriving DecidableEq, Repr

/-- The fault in words. -/
def Fault.message : Fault → String
  | .missing file => s!"Config file not found: {file}"
  | .unreadable fault => s!"Cannot read config file: {fault.message}"
  | .malformed label => s!"Invalid YAML in {label}"
  | .notAMapping label => s!"{label}: configuration must be a YAML mapping"
  | .unknownFields label names =>
    s!"{label}: unknown field(s): " ++ ", ".intercalate (names.map (·.string))
  | .notText label field => s!"{label}: '{field}' must be a string"
  | .notTruth label field => s!"{label}: '{field}' must be true or false"
  | .nameFilter label => s!"{label}: 'name-filter' is not a valid regular expression"
  | .inlineNotAMapping label => s!"{label}: 'inline' must be a YAML mapping"
  | .unknownInlineFields label names =>
    s!"{label}: unknown 'inline' field(s): " ++ ", ".intercalate (names.map (·.string))
  | .vendorTypesNotAMapping label => s!"{label}: 'vendor-type-overrides' must be a YAML mapping"
  | .vendorTypesNotTexts label =>
    s!"{label}: 'vendor-type-overrides' entries must map strings to strings"

/-- Why reading settings ends without any. Besides a fault it may be a document without a value, an
unknown field whose name is no text, a filter that asks for more than there can be, or bytes that
are no text; none of these has a message. -/
inductive Failure
  | fault (f : Fault)
  | unread (reason : String)
  | fieldName (name : Yaml.Value)
  | filter (limit : Pattern.Limit)
  | encoding (f : Text.Utf8Fault)
deriving Repr

/-! ## Fields -/

/-- The entries of a mapping. -/
abbrev Entries := List (Yaml.Value × Yaml.Value)

/-- The value of a field that is there. -/
def field? (entries : Entries) (name : String) : Option Yaml.Value :=
  (entries.find? fun e => e.1.isText name).map (·.2)

/-- The value of a field that is there and not null. -/
def givenField? (entries : Entries) (name : String) : Option Yaml.Value :=
  match field? entries name with
  | some .null => none
  | v => v

/-- The text of a field. -/
def textField (label : String) (entries : Entries) (name : String) (default : Letters) :
    Except Failure Letters :=
  match givenField? entries name with
  | none => .ok default
  | some (.text s) => .ok s
  | some _ => .error (.fault (.notText label name))

/-- The truth value of a field. -/
def truthField (label : String) (entries : Entries) (name : String) (default : Bool) :
    Except Failure Bool :=
  match givenField? entries name with
  | none => .ok default
  | some (.truth b) => .ok b
  | some _ => .error (.fault (.notTruth label name))

/-- The text that a value is. -/
def text? : Yaml.Value → Option Letters
  | .text s => some s
  | _ => none

/-- Check that only known fields are there; unknown ones are named in order. -/
def checkNames (known : List String) (fault : List Letters → Fault) (entries : Entries) :
    Except Failure Unit :=
  let unknown := (entries.map (·.1)).filter fun k => !known.any fun name => k.isText name
  match unknown.find? fun k => (text? k).isNone with
  | some k => .error (.fieldName k)
  | none =>
    if unknown.isEmpty then .ok ()
    else .error (.fault (fault ((unknown.filterMap text?).mergeSort Letters.le)))

/-- The fields of the settings. -/
def fieldNames : List String :=
  ["input-directory", "output-directory", "devices-file", "variables-file", "name-filter",
   "include-default-endpoints", "inline", "vendor-type-overrides"]

/-- The fields of the switches for lines. -/
def inlineNames : List String :=
  ["container-properties", "device-properties", "endpoint-properties", "variable-entries"]

/-- The switches for lines. -/
def inlineOf (label : String) : Yaml.Value → Except Failure InlineSettings
  | .mapping entries => do
    checkNames inlineNames (.unknownInlineFields label) entries
    let d : InlineSettings := {}
    let truth := truthField s!"{label}: inline" entries
    return { containerProperties := ← truth "container-properties" d.containerProperties,
             deviceProperties := ← truth "device-properties" d.deviceProperties,
             endpointProperties := ← truth "endpoint-properties" d.endpointProperties,
             variableEntries := ← truth "variable-entries" d.variableEntries }
  | _ => .error (.fault (.inlineNotAMapping label))

/-- Namespaces and their type ids. -/
def vendorTypesOf (label : String) : Yaml.Value → Except Failure (List (Letters × Letters))
  | .null => .ok []
  | .mapping entries =>
    entries.mapM fun
      | (.text key, .text id) => .ok (key, id)
      | _ => .error (.fault (.vendorTypesNotTexts label))
  | _ => .error (.fault (.vendorTypesNotAMapping label))

/-- The expression that selects records; an empty one selects all. -/
def nameFilterOf (lib : Library) (label : String) (entries : Entries) :
    Except Failure (Option Letters) := do
  let expression ← textField label entries "name-filter" ""
  if expression.isEmpty then return none
  else match Pattern.Node.read lib.named expression with
    | .ok _ => return some expression
    | .error .malformed => .error (.fault (.nameFilter label))
    | .error (.limit l) => .error (.filter l)

/-- The settings that the entries of a mapping make. -/
def ofEntries (lib : Library) (label : String) (entries : Entries) : Except Failure Settings := do
  checkNames fieldNames (.unknownFields label) entries
  let d : Settings := {}
  let text := textField label entries
  let inputDirectory ← text "input-directory" d.inputDirectory
  let outputDirectory ← text "output-directory" d.outputDirectory
  let devicesFile ← text "devices-file" d.devicesFile
  let variablesFile ← text "variables-file" d.variablesFile
  let includeDefaultEndpoints ←
    truthField label entries "include-default-endpoints" d.includeDefaultEndpoints
  let nameFilter ← nameFilterOf lib label entries
  let inline ← (field? entries "inline").elim (.ok d.inline) (inlineOf label)
  let vendorTypes ←
    (field? entries "vendor-type-overrides").elim (.ok d.vendorTypes) (vendorTypesOf label)
  return { inputDirectory, outputDirectory, devicesFile, variablesFile, nameFilter,
           includeDefaultEndpoints, inline, vendorTypes }

/-- The settings that a value makes: null makes the defaults. -/
def ofValue (lib : Library) (label : String) : Yaml.Value → Except Failure Settings
  | .null => .ok {}
  | .mapping entries => ofEntries lib label entries
  | _ => .error (.fault (.notAMapping label))

/-- The settings that a text spells. -/
def ofText (lib : Library) (label : String) (text : Letters) : Except Failure Settings :=
  match lib.yaml text with
  | .error .malformed => .error (.fault (.malformed label))
  | .error (.unread reason) => .error (.unread reason)
  | .ok v => ofValue lib label v

/-! ## Files -/

/-- The settings that a file holds. -/
def load (lib : Library) (file : Path) : Task (Except Failure Settings) := do
  match ← Task.readText Text.decodeUtf8 file with
  | .ok text => return ofText lib file.text text
  | .error (.encoding f) => return .error (.encoding f)
  | .error (.system f) =>
    if f.cause = .noSuchEntry then return .error (.fault (.missing file.text))
    else return .error (.fault (.unreadable f))

/-- A text that spells the default settings. -/
def defaultText : String :=
  let d : Settings := {}
  let overrides := d.vendorTypes.map fun p => s!"  {p.1.string}: {p.2.string}\n"
  "# habconf converter configuration\n" ++
    s!"input-directory: {d.inputDirectory.string}\n" ++
    s!"output-directory: {d.outputDirectory.string}\n" ++
    s!"devices-file: {d.devicesFile.string}\n" ++
    s!"variables-file: {d.variablesFile.string}\n" ++
    "include-default-endpoints: false\n" ++
    "inline:\n" ++
    "  container-properties: false\n" ++
    "  device-properties: false\n" ++
    "  endpoint-properties: true\n" ++
    "  variable-entries: false\n" ++
    "vendor-type-overrides:\n" ++
    String.join overrides

end Settings

end HomeCatalog
