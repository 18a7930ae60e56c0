import HomeCatalog.Entity.Basic

/-!
# Consistency of a catalog

Warnings about entities that are written but are likely to confuse the platform: names and ids that
occur more than once, and links to devices that are not there. Warnings never keep a catalog from
being written.
-/

namespace HomeCatalog

/-- Something odd about a catalog. -/
inductive Warning
  | repeatedVariable (name : String) (count : Nat)
  | repeatedDevice (uid : String) (count : Nat)
  | danglingLink (variableName endpointId deviceUid : String)
deriving DecidableEq, Repr

/-- The warning in words. -/
def Warning.message : Warning → String
  | .repeatedVariable name count => s!"Variable '{name}' is defined {count} times."
  | .repeatedDevice uid count => s!"Device '{uid}' is defined {count} times."
  | .danglingLink variableName endpointId deviceUid =>
    s!"Variable '{variableName}' links to '{endpointId}', " ++
      s!"but device '{deviceUid}' is not part of the output."

/-- The texts that occur more than once, in the order of their first occurrences, and how often. -/
def repeated (texts : List String) : List (String × Nat) :=
  (texts.eraseDups.map fun s => (s, texts.count s)).filter fun r => 1 < r.2

namespace Catalog

/-- The standalone devices, and then the children of each container. -/
def allDevices (c : Catalog) : List Device :=
  c.devices ++ c.containers.flatMap (·.children)

/-- The ids of the containers, and then those of all devices. -/
def allUids (c : Catalog) : List String :=
  c.containers.map (·.uid) ++ c.allDevices.map (·.uid)

/-- The id before the last colon of an endpoint's full id; empty if there is no colon. -/
def deviceOfEndpoint (endpointId : String) : String :=
  String.ofList ((endpointId.toList.reverse.dropWhile (· != ':')).drop 1).reverse

/-- The links of a variable whose device is not among these ids. -/
def danglingLinks (uids : List String) (v : Variable) : List Warning :=
  v.entries.filterMap fun e =>
    match e with
    | .link l =>
      let uid := deviceOfEndpoint l.endpointId
      if uids.contains uid then none else some (.danglingLink v.name l.endpointId uid)
    | .note _ => none

/-- All warnings: repeated variables, then repeated devices, then dangling links. -/
def warnings (c : Catalog) : List Warning :=
  (repeated (c.vars.map (·.name))).map (fun r => .repeatedVariable r.1 r.2) ++
    (repeated c.allUids).map (fun r => .repeatedDevice r.1 r.2) ++
    c.vars.flatMap (danglingLinks (c.allDevices.map (·.uid)))

end Catalog

end HomeCatalog
