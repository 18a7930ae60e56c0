/-!
# Texts that are given

An empty text counts as a missing one wherever a text is optional.
-/

namespace HomeCatalog

/-- A text that is there and not empty. -/
def given (s : Option String) : Option String :=
  s.filter (!·.isEmpty)

/-- A text unless it is empty. -/
def nonEmpty? (s : String) : Option String :=
  if s.isEmpty then none else some s

end HomeCatalog
