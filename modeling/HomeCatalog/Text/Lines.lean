/-!
# Line ends

Files may end their lines with a carriage return, a line feed or both. `unifyLineEnds` leaves line
feeds only.
-/

namespace HomeCatalog.Text

/-- The characters with every line end written as one line feed. -/
def unifyLineEnds : List Char → List Char
  | [] => []
  | '\r' :: '\n' :: cs => '\n' :: unifyLineEnds cs
  | '\r' :: cs => '\n' :: unifyLineEnds cs
  | c :: cs => c :: unifyLineEnds cs

end HomeCatalog.Text
