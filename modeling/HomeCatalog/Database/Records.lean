import HomeCatalog.Database.Document
import HomeCatalog.Database.Properties
import HomeCatalog.Text.Given
import HomeCatalog.Text.Split

/-!
# Records in a database

How the members of a database record become a record of this library. Databases differ in the
spelling of names and in the form of ids, which are texts or lists of segments; a missing or null
member leaves its field empty.
-/

namespace HomeCatalog.Database

/-- The value of the first of these members that is there and not null. -/
def first (members : Members) (names : List String) : Json :=
  (names.findSome? fun name : String =>
    match members.lookup (name : Letters) with
    | none | some .null => none
    | some j => some j).getD .null

/-- The value of a member, null if it is not there. -/
def member (members : Members) (name : String) : Json :=
  (members.lookup (name : Letters)).getD .null

/-- The text of a member of an object that is a text. -/
def textMember? (members : Members) (name : String) : Option String :=
  match members.lookup (name : Letters) with
  | some (.text s) => some s.string
  | _ => none

/-- An id: a text, or an object with a list of segments or with a text of its own. -/
def uidOf : Json → String
  | .text s => s.string
  | .object members =>
    match members.lookup ("segments" : Letters) with
    | some (.list segments) => Text.join ':' (segments.map Json.display)
    | _ => (["uid", "UID", "id"].findSome? (textMember? members)).getD ""
  | _ => ""

/-- The text of a value that has one. -/
def textOf? : Json → Option String
  | .null => none
  | j => nonEmpty? j.display

/-- The texts of the items of a list; nulls count for nothing. -/
def textsOf : Json → List String
  | .list items => definitions items
  | _ => []

/-- The text of a value, or another text where no value is given. -/
def textOr (default : String) (j : Json) : String :=
  if j.isGiven then j.display else default

/-- The items of a value that is a list. -/
def itemsOf : Json → List Json
  | .list items => items
  | _ => []

/-- An endpoint of a device. -/
def endpointRecord : Json → Except Property.DefinitionFault EndpointRecord
  | .object members => do
    let properties ← propertiesOf (member members "configuration")
    return {
      uid := uidOf (first members ["uid", "UID"])
      kind := textOr "STATE" (member members "kind")
      itemType := textOf? (first members ["itemType", "acceptedItemType"])
      label := textOf? (member members "label")
      properties }
  | _ => .ok { uid := "" }

/-- A device or a container; without an id of its own it has its name for one. -/
def deviceRecord (name : String) (members : Members) :
    Except Property.DefinitionFault DeviceRecord := do
  let properties ← propertiesOf (member members "configuration")
  let endpoints ← (itemsOf (member members "channels")).mapM endpointRecord
  return {
    name
    uid := (nonEmpty? (uidOf (first members ["UID", "uid"]))).getD name
    label := textOf? (member members "label")
    location := textOf? (member members "location")
    bridgeUid := nonEmpty? (uidOf (first members ["bridgeUID", "bridgeUid"]))
    isBridge := (first members ["isBridge", "bridge"]).isGiven
    properties
    endpoints }

/-- A variable; a name of its own goes before the name of its record. -/
def variableRecord (name : String) (members : Members) :
    Except Property.DefinitionFault VariableRecord :=
  .ok {
    name := textOr name (member members "name")
    itemType := textOr "" (member members "itemType")
    label := textOf? (member members "label")
    category := textOf? (member members "category")
    iconName := textOf? (member members "iconName")
    groups := textsOf (member members "groupNames")
    tags := textsOf (member members "tags")
    baseType := textOf? (member members "baseItemType")
    function := textOf? (member members "functionName")
    parameters := textsOf (member members "functionParams") }

/-- A link. -/
def linkRecord (name : String) (members : Members) :
    Except Property.DefinitionFault LinkRecord := do
  let properties ← propertiesOf (member members "configuration")
  return {
    name
    channelUid := uidOf (first members ["channelUID", "uid", "UID"])
    itemName := textOf? (member members "itemName")
    properties }

/-- A note; its key goes before the name of its record. -/
def noteRecord (name : String) (members : Members) :
    Except Property.DefinitionFault NoteRecord := do
  let properties ← propertiesOf (member members "configuration")
  return {
    name := (nonEmpty? (uidOf (member members "key"))).getD name
    value := textOr "" (member members "value")
    properties }

end HomeCatalog.Database
