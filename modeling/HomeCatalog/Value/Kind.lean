import HomeCatalog.Text.Blank
import HomeCatalog.Text.Casing
import HomeCatalog.Text.Digit

/-!
# Kinds of values

A configuration value is a text together with its kind. `ValueKind.infer` finds the kind of a text
that says nothing about it, and `ValueKind.declared?` reads the name of a kind as databases spell
it.
-/

namespace HomeCatalog

/-- The kinds of configuration values. -/
inductive ValueKind
  | int
  | decimal
  | bool
  | string
  /-- Given explicitly only; nothing is inferred to be of this kind. -/
  | unknown
deriving DecidableEq, Repr

namespace ValueKind

/-- The spellings of the two truth values, in lower case. -/
def isTruthWord (s : String) : Bool :=
  s == "true" || s == "false"

/-- The characters after an optional minus sign. -/
def unsign : List Char → List Char
  | '-' :: cs => cs
  | cs => cs

/-- An optional minus sign and digits of any script. -/
def isSignedInteger (cs : List Char) : Bool :=
  Text.isDigits (unsign cs)

/-- An optional minus sign, digits of any script, and optionally one of the separators with more
digits. -/
def isFixedDecimal (separators cs : List Char) : Bool :=
  let body := unsign cs
  !(body.takeWhile Text.isDigit).isEmpty &&
    match body.dropWhile Text.isDigit with
    | [] => true
    | c :: rest => separators.contains c && Text.isDigits rest

/-- The kind of a text: a truth value in any case, then an integer without a sign, then a decimal
with a comma or a point, then a string. -/
def infer (raw : String) : ValueKind :=
  if isTruthWord (Text.lower raw) then .bool
  else if Text.isDigits raw.toList then .int
  else if isFixedDecimal [',', '.'] raw.toList then .decimal
  else .string

/-- The names of kinds in databases, in lower case and without their namespace. -/
def declaredNames : List (String × ValueKind) :=
  [("string", .string), ("int", .int), ("int16", .int), ("int32", .int), ("int64", .int),
   ("integer", .int), ("long", .int), ("decimal", .decimal), ("double", .decimal),
   ("float", .decimal), ("bigdecimal", .decimal), ("bool", .bool), ("boolean", .bool)]

/-- The characters without a leading `system.`. -/
def dropNamespace (cs : List Char) : List Char :=
  let lead := "system.".toList
  if lead.isPrefixOf cs then cs.drop lead.length else cs

/-- The kind that a declaration names, in any case and with blanks around it. -/
def declared? (declaration : String) : Option ValueKind :=
  let key := Text.lower (Text.strip declaration)
  declaredNames.lookup (String.ofList (dropNamespace key.toList))

end ValueKind

end HomeCatalog
