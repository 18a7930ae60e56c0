import HomeCatalog.Decimal.Literal
import HomeCatalog.Decimal.Notation
import HomeCatalog.Value.Kind

/-!
# Configuration values

A value has a name, a text, a kind, and a mode for the metadata of links and notes, in which
decimals and truth values are quoted. `Value.make` checks the text against the kind, so that no
malformed literal reaches the output. `normalizeDecimal` gives the one form in which decimals are
written: no exponent, and a point for the comma.
-/

namespace HomeCatalog

/-- Why a text is no decimal. -/
inductive DecimalFault
  | malformed (raw : String)
  | notFinite (raw : String)
deriving DecidableEq, Repr

/-- The fault in words. -/
def DecimalFault.message : DecimalFault → String
  | .malformed raw => s!"'{raw}' is not a valid decimal literal"
  | .notFinite raw => s!"'{raw}' is not a finite decimal literal"

/-- A comma read as a point. -/
def pointForComma (c : Char) : Char :=
  if c = ',' then '.' else c

/-- The decimal that a text spells, without an exponent. A text that has that form already is kept
digit by digit. -/
def normalizeDecimal (raw : String) : Except DecimalFault String :=
  let cs := (Text.stripChars raw.toList).map pointForComma
  if ValueKind.isFixedDecimal ['.'] cs then .ok (String.ofList cs)
  else match Decimal.Literal.ofChars? cs with
    | none => .error (.malformed raw)
    | some (.finite d) => .ok d.fixed
    | some _ => .error (.notFinite raw)

/-- A configuration value. -/
structure Value where
  name : String
  raw : String
  kind : ValueKind := .string
  /-- Decimals and truth values are quoted, as links and notes want them. -/
  metadata : Bool := false
deriving DecidableEq, Repr

/-- Why a text does not fit its kind, and the name of the value. -/
inductive ValueFault
  | integer (raw name : String)
  | decimal (fault : DecimalFault) (name : String)
  | bool (raw name : String)
deriving DecidableEq, Repr

/-- The fault in words. -/
def ValueFault.message : ValueFault → String
  | .integer raw name => s!"'{raw}' is not a valid integer literal for '{name}'"
  | .decimal fault name => s!"{fault.message} for '{name}'"
  | .bool raw name => s!"'{raw}' is not a valid boolean literal for '{name}'"

namespace Value

/-- The fault of a value whose text does not fit its kind. -/
def fault? (v : Value) : Option ValueFault :=
  match v.kind with
  | .int =>
    if ValueKind.isSignedInteger (Text.stripChars v.raw.toList) then none
    else some (.integer v.raw v.name)
  | .decimal =>
    match normalizeDecimal v.raw with
    | .ok _ => none
    | .error e => some (.decimal e v.name)
  | .bool =>
    if ValueKind.isTruthWord (Text.lower (Text.strip v.raw)) then none
    else some (.bool v.raw v.name)
  | .string | .unknown => none

/-- A value whose text fits its kind; the kind is inferred where none is given. -/
def make (name raw : String) (kind : Option ValueKind) (metadata : Bool) :
    Except ValueFault Value :=
  let v : Value := { name, raw, kind := kind.getD (.infer raw), metadata }
  match v.fault? with
  | none => .ok v
  | some e => .error e

end Value

/-- Values in the order in which they were added. -/
abbrev ValueList := List Value

end HomeCatalog
