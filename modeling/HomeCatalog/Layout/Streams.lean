import HomeCatalog.Layout.Text
import HomeCatalog.Text.CodePage
import HomeCatalog.Text.Shown

/-!
# The two streams

A catalog is written as two texts, one of containers and devices and one of variables. Both are
sorted, in an order that depends on names only and keeps the given order of equal ones, and encoded
in the code page of the platform.
-/

namespace HomeCatalog

/-- What the first stream is made of. -/
inductive DeviceEntry
  | container (c : Container)
  | device (d : Device)
deriving DecidableEq, Repr

/-- The order of texts by code points. -/
def textLE (a b : String) : Bool :=
  !(b < a)

/-- The containers and then the standalone devices, each by namespace. -/
def sortedDeviceEntries (c : Catalog) : List DeviceEntry :=
  (c.containers.mergeSort fun a b => textLE a.namespaceId b.namespaceId).map .container ++
    (c.devices.mergeSort fun a b => textLE a.namespaceId b.namespaceId).map .device

/-- Whether a variable may stand before another: by data type, then by name. -/
def variableLE (a b : Variable) : Bool :=
  if a.dataType = b.dataType then textLE a.name b.name else textLE a.dataType b.dataType

/-- The variables by data type, then by name. -/
def sortedVariables (c : Catalog) : List Variable :=
  c.vars.mergeSort variableLE

/-- A container or a standalone device with the empty line after it. -/
def DeviceEntry.render (o : LayoutOptions) : DeviceEntry → String
  | .container c => c.render o
  | .device d => d.render o 0 false

/-- The stream of containers and devices. -/
def devicesText (o : LayoutOptions) (c : Catalog) : String :=
  String.join ((sortedDeviceEntries c).map (DeviceEntry.render o))

/-- The stream of variables, an empty line between each two. -/
def variablesText (o : LayoutOptions) (c : Catalog) : String :=
  o.newline.intercalate ((sortedVariables c).map (Variable.render o))

/-- A text that the code page cannot hold, and what it is the text of. -/
structure EncodingFault where
  label : String
  part : Text.Unencodable
deriving DecidableEq, Repr

/-- The fault in words. -/
def EncodingFault.message (f : EncodingFault) : String :=
  s!"{f.label}: character {Text.shown (String.ofList f.part.run)} at offset {f.part.offset} " ++
    "cannot be encoded as cp1252"

/-- The bytes of a text in the platform's code page. -/
def encodeText (label text : String) : Except EncodingFault (List UInt8) :=
  (Text.encodeCodePage 0 text.toList).mapError (⟨label, ·⟩)

end HomeCatalog
