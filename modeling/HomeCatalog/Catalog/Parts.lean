import HomeCatalog.Catalog.Fault
import HomeCatalog.Entity.Basic
import HomeCatalog.Record
import HomeCatalog.Text.Split

/-!
# Entities out of records

One record makes one entity: ids are cut into their segments, and property texts are checked against
their kinds. Nothing here looks at a second record.
-/

namespace HomeCatalog

/-! ## Ids and properties -/

/-- An id of three segments, none of them empty. -/
def threeSegments (owner : Owner) (field uid : String) :
    Except CatalogFault (String × String × String) :=
  match Text.split ':' uid with
  | [a, b, c] =>
    if a.isEmpty || b.isEmpty || c.isEmpty then .error (.segments owner field uid 3 3)
    else .ok (a, b, c)
  | parts => .error (.segments owner field uid 3 parts.length)

/-- An id of four segments, none of them empty. -/
def fourSegments (owner : Owner) (field uid : String) :
    Except CatalogFault (String × String × String × String) :=
  match Text.split ':' uid with
  | [a, b, c, d] =>
    if a.isEmpty || b.isEmpty || c.isEmpty || d.isEmpty then .error (.segments owner field uid 4 4)
    else .ok (a, b, c, d)
  | parts => .error (.segments owner field uid 4 parts.length)

/-- The value that a property states. -/
def valueOfProperty (owner : Owner) (metadata : Bool) (p : Property) :
    Except CatalogFault Value :=
  (Value.make p.name p.raw p.kind? metadata).mapError (.property owner p.name)

/-- The values that properties state, in order. -/
def valuesOfProperties (owner : Owner) (metadata : Bool) (ps : List Property) :
    Except CatalogFault ValueList :=
  ps.mapM (valueOfProperty owner metadata)

/-! ## Containers and devices -/

/-- The container that a record describes. -/
def Container.ofRecord (r : DeviceRecord) : Except CatalogFault Container := do
  let (namespaceId, typeId, containerId) ← threeSegments (.container r.name) "UID" r.uid
  let properties ← valuesOfProperties (.container r.name) false r.properties
  return {
    namespaceId, typeId, containerId
    displayName := given r.label
    location := given r.location
    properties }

/-- The endpoint that a record of a device describes. Its id is the last segment of the full one. -/
def Endpoint.ofRecord (deviceName : String) (r : EndpointRecord) :
    Except CatalogFault Endpoint := do
  let properties ← valuesOfProperties (.endpoint r.uid deviceName) false r.properties
  return {
    kind := (nonEmpty? r.kind).getD "STATE"
    dataType := given r.itemType
    id := (Text.split ':' r.uid).getLast?.getD ""
    displayName := given r.label
    properties }

/-- The ids of a device: namespace, type, container if it has one, and its own. -/
def deviceIds (r : DeviceRecord) :
    Except CatalogFault (String × String × Option String × String) :=
  match given r.bridgeUid with
  | some bridgeUid => do
    let _ ← threeSegments (.device r.name) "bridgeUID" bridgeUid
    let (namespaceId, typeId, containerId, deviceId) ← fourSegments (.device r.name) "UID" r.uid
    return (namespaceId, typeId, some containerId, deviceId)
  | none => do
    let (namespaceId, typeId, deviceId) ← threeSegments (.device r.name) "UID" r.uid
    return (namespaceId, typeId, none, deviceId)

/-- The device that a record describes. -/
def Device.ofRecord (r : DeviceRecord) : Except CatalogFault Device := do
  let (namespaceId, typeId, containerId, deviceId) ← deviceIds r
  let properties ← valuesOfProperties (.device r.name) false r.properties
  let endpoints ← r.endpoints.mapM (Endpoint.ofRecord r.name)
  return {
    namespaceId, typeId, containerId, deviceId
    displayName := given r.label
    location := given r.location
    properties, endpoints }

/-! ## Variables, links and notes -/

/-- What stands before the first arrow between blanks, if there is one. -/
def beforeArrow? : List Char → Option (List Char)
  | [] => none
  | ' ' :: '-' :: '>' :: ' ' :: _ => some []
  | c :: cs => (beforeArrow? cs).map (c :: ·)

/-- The variable that a link belongs to: named by the record, or before the arrow in its name. -/
def LinkRecord.variableName? (r : LinkRecord) : Option String :=
  match given r.itemName with
  | some name => some name
  | none => given ((beforeArrow? r.name.toList).map fun cs => Text.strip (String.ofList cs))

/-- The link that a record describes. -/
def Link.ofRecord (r : LinkRecord) : Except CatalogFault Link :=
  match r.variableName? with
  | none => .error (.unresolvedLink r.name)
  | some variableName =>
    if r.channelUid.isEmpty then .error (.missingEndpoint r.name)
    else do
      let properties ← valuesOfProperties (.link r.name) true r.properties
      return { name := r.name, endpointId := r.channelUid, variableName, properties }

/-- The namespace and the variable in the name of a note: before and after its first colon. -/
def NoteRecord.parts? (r : NoteRecord) : Option (String × String) :=
  let before := r.name.toList.takeWhile (· != ':')
  match r.name.toList.dropWhile (· != ':') with
  | _ :: after =>
    if before.isEmpty || after.isEmpty then none
    else some (String.ofList before, String.ofList after)
  | [] => none

/-- The note that a record describes. -/
def Note.ofRecord (r : NoteRecord) : Except CatalogFault Note :=
  match r.parts? with
  | none => .error (.noteName r.name)
  | some (namespaceId, variableName) => do
    let properties ← valuesOfProperties (.note r.name) true r.properties
    return { name := r.name, namespaceId, value := r.value, variableName, properties }

/-- The variable that a record describes, nothing attached to it. The category stands in for a
missing icon, and a function without a base type is dropped. -/
def Variable.ofRecord (r : VariableRecord) : Except CatalogFault Variable :=
  if r.itemType.isEmpty then .error (.missingType r.name)
  else
    let isGroup := (given r.baseType).isSome
    .ok {
      dataType := r.itemType
      name := r.name
      displayName := given r.label
      category := given r.category
      iconName := (given r.iconName).or (given r.category)
      groups := r.groups
      tags := r.tags
      baseType := given r.baseType
      function := if isGroup then given r.function else none
      parameters := if isGroup then r.parameters else [] }

end HomeCatalog
