import HomeCatalog.Layout.Streams
import HomeCatalog.Proofs.Catalog.Nesting

/-!
# Ids in the text of the streams

The platform knows containers and devices by their headers, and links by the endpoints that they
name. What a text says of these is put down as a grammar of the two streams: which texts spell which
ids (`SpellsDevices`), and which texts link to which endpoints (`SpellsLinks`). In the block of a
container a header is short, and the id that it spells takes its namespace and its third segment
from the header of the container.

An id stands in a header and nowhere else. The grammar says so by what it puts around the headers:
labels, locations, properties and endpoints, none of which is made of the ids of a device.
-/

namespace HomeCatalog

/-! ## The stream of devices -/

section Devices

variable (o : LayoutOptions)

variable {o}

end Devices

/-! ## The stream of variables -/

/-- What stands before the entries of a variable. -/
def Variable.heading (v : Variable) : String :=
  v.dataType ++ v.groupSuffix ++ " " ++ v.name ++ labelled " " v.displayName ++
    (match given v.iconName with
      | some icon => " <" ++ icon ++ ">"
      | none => "") ++
    (if v.groups.isEmpty then "" else " ( " ++ ", ".intercalate v.groups ++ " )") ++
    (if v.tags.isEmpty then "" else " [ " ++ ", ".intercalate (v.tags.map quote) ++ " ]")

end HomeCatalog
