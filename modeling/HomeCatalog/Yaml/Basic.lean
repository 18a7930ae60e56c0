import HomeCatalog.Text.Letters

/-!
# YAML

The values of YAML documents, as far as settings need them. How a text spells its value is not said
here: settings are read with a `Yaml.Reader`, and what holds of them holds whatever reader that is.
-/

namespace HomeCatalog.Yaml

/-- The value of a document. A value that settings have no use for only tells its type. -/
inductive Value
  | null
  | truth (b : Bool)
  | text (s : Letters)
  | mapping (entries : List (Value × Value))
  | other (type : String)
deriving Repr, Inhabited

/-- Whether the value is this text. -/
def Value.isText (s : Letters) : Value → Bool
  | .text t => t == s
  | _ => false

/-- Why a text has no value. -/
inductive Fault
  /-- The text is no document. -/
  | malformed
  /-- The text is a document and yet has no value, for this reason. -/
  | unread (reason : String)
deriving DecidableEq, Repr

/-- A reader of texts. A text with nothing in it is null. -/
abbrev Reader := Letters → Except Fault Value

end HomeCatalog.Yaml
