import HomeCatalog.Pattern.Reader
import HomeCatalog.Text.Shown
import HomeCatalog.Value.Basic

/-!
# Catalog faults

Why records do not make a catalog. There is no partial catalog: the first fault ends the building.
-/

namespace HomeCatalog

/-- The record that a fault is found in. -/
inductive Owner
  | container (name : String)
  | device (name : String)
  | endpoint (uid host : String)
  | link (name : String)
  | note (name : String)
deriving DecidableEq, Repr

/-- The record as messages name it. -/
def Owner.text : Owner → String
  | .container name => s!"Container '{name}'"
  | .device name => s!"Device '{name}'"
  | .endpoint uid host => s!"Endpoint '{uid}' of device '{host}'"
  | .link name => s!"Link '{name}'"
  | .note name => s!"Annotation '{name}'"

/-- What keeps records from making a catalog. -/
inductive CatalogFault
  | nameFilter (filter : String)
  /-- A filter in good form that asks for more than there can be. -/
  | filterLimit (limit : Pattern.Limit)
  | segments (owner : Owner) (field uid : String) (expected found : Nat)
  | property (owner : Owner) (name : String) (reason : ValueFault)
  | unknownContainer (device container : String)
  | unresolvedLink (link : String)
  | missingEndpoint (link : String)
  | noteName (note : String)
  | missingType (variableName : String)
deriving DecidableEq, Repr

/-- The fault in words. -/
def CatalogFault.message : CatalogFault → String
  | .nameFilter filter => s!"Invalid name filter {Text.shown filter}"
  | .filterLimit limit => limit.message
  | .segments owner field uid expected found =>
    s!"{owner.text}: '{field}' value '{uid}' must have {expected} colon-separated segments, " ++
      s!"found {found}"
  | .property owner name reason =>
    s!"{owner.text}: invalid value for property '{name}': Value error, {reason.message}"
  | .unknownContainer device container =>
    s!"Device '{device}': container '{container}' referenced by 'bridgeUID' does not exist"
  | .unresolvedLink link =>
    s!"Link '{link}': cannot determine the linked variable ('itemName' is missing)"
  | .missingEndpoint link => s!"Link '{link}': missing endpoint id ('channelUID')"
  | .noteName note =>
    s!"Annotation '{note}': record name must have the form 'namespace:variable'"
  | .missingType variableName => s!"Variable '{variableName}': missing 'itemType'"

end HomeCatalog
