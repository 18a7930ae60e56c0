import HomeCatalog.Text.Given
import HomeCatalog.Value.Basic

/-!
# Entities

What a configuration is made of: devices with their endpoints, containers that host devices, and
variables with the links and notes attached to them. A `Catalog` is everything that one
conversion writes.
-/

namespace HomeCatalog

/-- A data or command point of a device. -/
structure Endpoint where
  kind : String
  dataType : Option String := none
  id : String
  displayName : Option String := none
  properties : ValueList := []
deriving DecidableEq, Repr

namespace Endpoint

/-- The kind with a capital first letter and small letters after it. -/
def displayKind (e : Endpoint) : String :=
  match e.kind.toList with
  | [] => ""
  | c :: cs => Text.upper (String.singleton c) ++ Text.lower (String.ofList cs)

/-- The data type that is written. Triggers carry no data and are declared as strings, like
endpoints without a type. -/
def declaredType (e : Endpoint) : String :=
  if Text.lower e.kind == "trigger" then "String" else (given e.dataType).getD "String"

end Endpoint

/-- A managed unit, on its own or hosted by a container. -/
structure Device where
  namespaceId : String
  typeId : String
  containerId : Option String := none
  deviceId : String
  displayName : Option String := none
  location : Option String := none
  properties : ValueList := []
  endpoints : List Endpoint := []
deriving DecidableEq, Repr

/-- The full id of a device: three segments, or four with the container's. -/
def Device.uid (d : Device) : String :=
  match d.containerId with
  | some c => d.namespaceId ++ ":" ++ d.typeId ++ ":" ++ c ++ ":" ++ d.deviceId
  | none => d.namespaceId ++ ":" ++ d.typeId ++ ":" ++ d.deviceId

/-- A device that hosts other devices. -/
structure Container where
  namespaceId : String
  typeId : String
  containerId : String
  displayName : Option String := none
  location : Option String := none
  properties : ValueList := []
  children : List Device := []
deriving DecidableEq, Repr

/-- The id that children name their container by. -/
def Container.uid (c : Container) : String :=
  c.namespaceId ++ ":" ++ c.typeId ++ ":" ++ c.containerId

/-- Ties a variable to an endpoint, named by its full id. -/
structure Link where
  name : String
  endpointId : String
  variableName : String
  properties : ValueList := []
deriving DecidableEq, Repr

/-- A fact about a variable, under a namespace of its own. -/
structure Note where
  name : String
  namespaceId : String
  value : String
  variableName : String
  properties : ValueList := []
deriving DecidableEq, Repr

/-- What is attached to a variable. -/
inductive Entry
  | link (l : Link)
  | note (a : Note)
deriving DecidableEq, Repr

/-- A named value of the home. The function and its parameters count only where the variable is a
group with a base type. The category is not written; it stands in for a missing icon when a variable
is built. -/
structure Variable where
  dataType : String
  name : String
  displayName : Option String := none
  category : Option String := none
  iconName : Option String := none
  groups : List String := []
  tags : List String := []
  entries : List Entry := []
  baseType : Option String := none
  function : Option String := none
  parameters : List String := []
deriving DecidableEq, Repr

/-- Everything that is written. -/
structure Catalog where
  containers : List Container := []
  devices : List Device := []
  vars : List Variable := []
deriving DecidableEq, Repr

end HomeCatalog
