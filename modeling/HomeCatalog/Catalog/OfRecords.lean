import HomeCatalog.Catalog.Parts

/-!
# Catalogs out of records

A catalog holds what the records of a database describe. Containers come first: every record of one
is built, so that devices can be placed in it, but a container is kept only if its name is selected
or a device was placed in it. Links and notes go to the variables of their names, links first.

The predicate `selects` on record names decides which records count. It is applied to every record
of every category.
-/

namespace HomeCatalog

/-! ## Devices -/

/-- A device and, if it is hosted, the id of its container, which has to be one of these. -/
def placedDevice (containers : List Container) (r : DeviceRecord) :
    Except CatalogFault (Option String × Device) := do
  let device ← Device.ofRecord r
  match given r.bridgeUid with
  | none => return (none, device)
  | some uid =>
    if containers.any (·.uid == uid) then return (some uid, device)
    else throw (.unknownContainer r.name uid)

/-- The devices placed in the container of this id. -/
def hostedBy (placed : List (Option String × Device)) (uid : String) : List Device :=
  placed.filterMap fun p => if p.1 = some uid then some p.2 else none

/-- The containers with their children; of several with one id the first has them all. The ids in
`seen` are those of the containers before. -/
def withChildren (placed : List (Option String × Device)) (seen : List String) :
    List Container → List Container
  | [] => []
  | c :: cs =>
    { c with children := if seen.contains c.uid then [] else hostedBy placed c.uid } ::
      withChildren placed (c.uid :: seen) cs

/-- The ids of the containers that are kept: those selected by name, and those with a device. -/
def keptUids (selects : String → Bool) (bridges : List DeviceRecord)
    (placed : List (Option String × Device)) : List String :=
  (bridges.filter fun r => selects r.name).map (·.uid) ++ placed.filterMap (·.1)

/-- The containers, and the devices that stand on their own, both in the order of the records. -/
def buildDevices (selects : String → Bool) (records : List DeviceRecord) :
    Except CatalogFault (List Container × List Device) := do
  let bridges := records.filter (·.isBridge)
  let others := records.filter fun r => !r.isBridge && selects r.name
  let containers ← bridges.mapM Container.ofRecord
  let placed ← others.mapM (placedDevice containers)
  let kept := keptUids selects bridges placed
  return ((withChildren placed [] containers).filter fun c => kept.contains c.uid,
    placed.filterMap fun p => if p.1.isNone then some p.2 else none)

/-! ## Variables -/

/-- The links and then the notes of a variable, each in the order of the records. -/
def entriesFor (links : List Link) (notes : List Note) (name : String) : List Entry :=
  (links.filter (·.variableName == name)).map .link ++
    (notes.filter (·.variableName == name)).map .note

/-- The variables with what is attached to them, in the order of the records. -/
def buildVariables (selects : String → Bool) (vars : List VariableRecord)
    (links : List LinkRecord) (notes : List NoteRecord) :
    Except CatalogFault (List Variable) := do
  let links ← (links.filter fun r => selects r.name).mapM Link.ofRecord
  let notes ← (notes.filter fun r => selects r.name).mapM Note.ofRecord
  let vars ← (vars.filter fun r => selects r.name).mapM Variable.ofRecord
  return vars.map fun v => { v with entries := entriesFor links notes v.name }

/-! ## The whole catalog -/

/-- The catalog that the selected records describe. -/
def Catalog.ofRecords (selects : String → Bool) (records : RecordSet) :
    Except CatalogFault Catalog := do
  let (containers, devices) ← buildDevices selects records.devices
  let vars ← buildVariables selects records.vars records.links records.notes
  return { containers, devices, vars }

end HomeCatalog
