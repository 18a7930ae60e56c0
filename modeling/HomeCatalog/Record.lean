import HomeCatalog.Text.Shown
import HomeCatalog.Text.Word
import HomeCatalog.Value.Kind

/-!
# Records

What a database says about devices, variables, links and notes, before anything is checked.
A property is a name, the declared name of its kind, and its text. `Property.ofDefinition` reads the
one-line form `<kind> <name>=<text>`.
-/

namespace HomeCatalog

/-- One configuration property as a database has it. -/
structure Property where
  name : String
  /-- The name of the kind as declared; empty where unknown. -/
  declaredKind : String
  raw : String
deriving DecidableEq, Repr

namespace Property

/-- The kind declared, if the name of one is known. -/
def kind? (p : Property) : Option ValueKind :=
  ValueKind.declared? p.declaredKind

/-- A character of a declared kind. -/
def isKindChar (c : Char) : Bool :=
  Text.isWordChar c || c == '.' || c == '[' || c == ']'

/-- A character of a property's name in a definition. -/
def isNameChar (c : Char) : Bool :=
  c != '=' && !Text.isBlank c

/-- The parts of a definition without blanks around it: kind, blanks, name, equals sign, text. -/
def ofChars? (cs : List Char) : Option Property :=
  let kind := cs.takeWhile isKindChar
  let afterKind := cs.dropWhile isKindChar
  let blanks := afterKind.takeWhile Text.isBlank
  let afterBlanks := afterKind.dropWhile Text.isBlank
  let name := afterBlanks.takeWhile isNameChar
  match afterBlanks.dropWhile isNameChar with
  | '=' :: raw =>
    if kind.isEmpty || blanks.isEmpty || name.isEmpty then none
    else some ⟨String.ofList name, String.ofList kind, String.ofList raw⟩
  | _ => none

/-- A text that is no property definition. -/
structure DefinitionFault where
  definition : String
deriving DecidableEq, Repr

/-- The fault in words. -/
def DefinitionFault.message (f : DefinitionFault) : String :=
  s!"Malformed property definition: {Text.shown f.definition}"

/-- The property that a definition states. -/
def ofDefinition (definition : String) : Except DefinitionFault Property :=
  match ofChars? (Text.stripChars definition.toList) with
  | some p => .ok p
  | none => .error ⟨definition⟩

end Property

/-- An endpoint as a database has it. -/
structure EndpointRecord where
  uid : String
  kind : String := "STATE"
  itemType : Option String := none
  label : Option String := none
  properties : List Property := []
deriving DecidableEq, Repr

/-- A device or a container as a database has it. -/
structure DeviceRecord where
  name : String
  uid : String
  label : Option String := none
  location : Option String := none
  /-- The id of the hosting container. -/
  bridgeUid : Option String := none
  /-- The record describes a container. -/
  isBridge : Bool := false
  properties : List Property := []
  endpoints : List EndpointRecord := []
deriving DecidableEq, Repr

/-- A variable as a database has it. -/
structure VariableRecord where
  name : String
  itemType : String
  label : Option String := none
  category : Option String := none
  iconName : Option String := none
  groups : List String := []
  tags : List String := []
  baseType : Option String := none
  function : Option String := none
  parameters : List String := []
deriving DecidableEq, Repr

/-- A link as a database has it. -/
structure LinkRecord where
  name : String
  channelUid : String
  /-- The variable; where it is missing the record's name may tell it. -/
  itemName : Option String := none
  properties : List Property := []
deriving DecidableEq, Repr

/-- A note as a database has it. -/
structure NoteRecord where
  name : String
  value : String := ""
  properties : List Property := []
deriving DecidableEq, Repr

/-- The records of one database, each category in its order. -/
structure RecordSet where
  devices : List DeviceRecord := []
  vars : List VariableRecord := []
  links : List LinkRecord := []
  notes : List NoteRecord := []
deriving DecidableEq, Repr

end HomeCatalog
