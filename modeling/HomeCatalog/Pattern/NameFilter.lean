import HomeCatalog.Catalog.Fault
import HomeCatalog.Pattern.Reader
import HomeCatalog.Pattern.Search

/-!
# Name filters

A name filter is a regular expression that selects records by their names. Without a filter, and
with an empty one, every record is selected.
-/

namespace HomeCatalog

/-- A name filter that has been read. -/
structure NameFilter where
  /-- The expression as given. -/
  text : Letters
  pattern : Pattern.Node

namespace NameFilter

/-- The names that a filter selects: those that hold something it describes. -/
def selects : Option NameFilter → String → Bool
  | none, _ => true
  | some f, name => f.pattern.foundIn name

/-- Read a filter. -/
def ofText? (named : Pattern.CharacterNames) :
    Option Letters → Except CatalogFault (Option NameFilter)
  | none => .ok none
  | some text =>
    if text.isEmpty then .ok none
    else match Pattern.Node.read named text with
      | .ok pattern => .ok (some ⟨text, pattern⟩)
      | .error .malformed => .error (.nameFilter text.string)
      | .error (.limit l) => .error (.filterLimit l)

end NameFilter

end HomeCatalog
