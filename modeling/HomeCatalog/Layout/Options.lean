/-!
# Layout options

Switches that decide how a catalog is laid out on lines, and which type ids stand in for others.
They arrive as a value with every call.
-/

namespace HomeCatalog

/-- The value of a key in a list of pairs that holds each key once. -/
def pairValue? (pairs : List (String × String)) (key : String) : Option String :=
  pairs.lookup key

/-- How a catalog is laid out. -/
structure LayoutOptions where
  /-- The properties of a container stand on its line. -/
  containerPropertiesInline : Bool := false
  /-- The properties of a device stand on its line. -/
  devicePropertiesInline : Bool := false
  /-- The properties of an endpoint stand on its line. -/
  endpointPropertiesInline : Bool := true
  /-- The links and notes of a variable, and their properties, stand on its line. -/
  variableEntriesInline : Bool := false
  /-- Endpoints without properties are written too. -/
  includeDefaultEndpoints : Bool := false
  /-- The end of every line. -/
  newline : String := "\r\n"
  /-- Namespaces whose standalone devices have one fixed type id, and that id. -/
  vendorTypes : List (String × String) := [("shelly", "shellydevice")]
deriving DecidableEq, Repr

/-- The type id that a standalone device is written with. -/
def LayoutOptions.typeIdFor (o : LayoutOptions) (namespaceId typeId : String) : String :=
  (pairValue? o.vendorTypes namespaceId).getD typeId

end HomeCatalog
