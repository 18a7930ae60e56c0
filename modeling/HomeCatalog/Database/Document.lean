import HomeCatalog.Database.Fault

/-!
# Database documents

The platform keeps each category of its objects in a JSON document: an object that maps record names
to records, each of which may be wrapped in an object with its class beside it. `entriesOf` reads
the text of such a document into named records, in their order.

A document may hold halves of surrogate pairs. Records are made of characters, so their texts have
the replacement character there; values that are kept whole keep their halves.
-/

namespace HomeCatalog.Database

/-- The members of an object, in order. -/
abbrev Members := List (Letters × Json)

/-- The record inside its wrapping, if it has one. -/
def unwrapped (members : Members) : Members :=
  match members.lookup ("value" : Letters) with
  | some (.object inner) => inner
  | _ => members

/-- One named record of a document. -/
def entryOf (label : String) (member : Letters × Json) : Except Fault (String × Members) :=
  match member.2 with
  | .object members => .ok (member.1.string, unwrapped members)
  | _ => .error (.recordNotAnObject label member.1.string)

/-- The named records of a document. -/
def entriesOfJson (label : String) : Json → Except Fault (List (String × Members))
  | .object members => members.mapM (entryOf label)
  | _ => .error (.notAnObject label)

/-- The named records of a text; `label` tells faults where the text comes from. -/
def entriesOf (label text : String) : Except Failure (List (String × Members)) :=
  match Json.parse text with
  | .error (.malformed problem line column offset) =>
    .error (.fault (.malformed label problem line column offset))
  | .error (.number f) => .error (.number f)
  | .ok j => (entriesOfJson label j).mapError .fault

end HomeCatalog.Database
