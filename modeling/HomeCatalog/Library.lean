import HomeCatalog.Pattern.Reader
import HomeCatalog.Yaml.Basic

/-!
# What the program is given

The program reads YAML and asks for the names of characters, and does neither itself.
-/

namespace HomeCatalog

/-- A reader of YAML, and what characters are called in patterns. -/
structure Library where
  yaml : Yaml.Reader
  named : Pattern.CharacterNames

end HomeCatalog
