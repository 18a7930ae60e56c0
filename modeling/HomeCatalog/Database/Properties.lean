import HomeCatalog.Json.Writer
import HomeCatalog.Record

/-!
# Properties in a database

A configuration is an object, whose values tell the kinds of the properties, or a list of one-line
definitions. `propertiesOf` reads either; any other value has no properties.
-/

namespace HomeCatalog.Database

mutual

/-- The declared kind and the text of a value; null says nothing. -/
def declaration? : Json → Option (String × String)
  | .null => none
  | .bool b => some ("Bool", if b then "true" else "false")
  | .int n => some ("Int", toString n)
  | .decimal d => some ("Decimal", d.scientific)
  | .special n => some ("Decimal", Json.SpecialNumber.display n)
  | .text s => some ("String", s.string)
  | .list items => some ("String", ",".intercalate (itemTexts items))
  | .object members => some ("String", Json.write (.object members))

/-- The texts of the items of a list that say something. -/
def itemTexts : List Json → List String
  | [] => []
  | j :: rest =>
    match declaration? j with
    | some (_, raw) => raw :: itemTexts rest
    | none => itemTexts rest

end

/-- The members that hold the properties: older databases keep them one level deeper. -/
def configurationMembers : List (Letters × Json) → List (Letters × Json)
  | [(name, .object members)] => if name = "properties" then members else [(name, .object members)]
  | members => members

/-- The property that a member of a configuration states. -/
def propertyOfMember? (member : Letters × Json) : Option Property :=
  (declaration? member.2).map fun (kind, raw) => ⟨member.1.string, kind, raw⟩

/-- The definitions in a list; nulls count for nothing. -/
def definitions : List Json → List String
  | [] => []
  | .null :: rest => definitions rest
  | j :: rest => j.display :: definitions rest

/-- The properties that a configuration states. -/
def propertiesOf : Json → Except Property.DefinitionFault (List Property)
  | .list items => (definitions items).mapM Property.ofDefinition
  | .object members => .ok ((configurationMembers members).filterMap propertyOfMember?)
  | _ => .ok []

end HomeCatalog.Database
