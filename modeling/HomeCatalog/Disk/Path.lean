import HomeCatalog.Text.Split

/-!
# Paths

A path is a root, empty if the path is relative, and the names between its slashes. Empty names and
single dots say nothing and are left out; a double dot is a name like any other until the path is
resolved.
-/

namespace HomeCatalog

/-- A path of a file or a directory. -/
structure Path where
  /-- One slash, or exactly two; empty in a relative path. -/
  root : String := ""
  parts : List String
deriving DecidableEq, Repr, Inhabited

namespace Path

/-- The path that a text spells. -/
def ofString (s : String) : Path :=
  let root := match s.toList with
    | '/' :: '/' :: '/' :: _ => "/"
    | '/' :: '/' :: _ => "//"
    | '/' :: _ => "/"
    | _ => ""
  { root, parts := (Text.split '/' s).filter fun p => p != "" && p != "." }

/-- The text of a path; the path without names is a dot. -/
def text (p : Path) : String :=
  if p.root.isEmpty && p.parts.isEmpty then "." else p.root ++ "/".intercalate p.parts

/-- The second path seen from the first, unless it has a root of its own. -/
def join (p q : Path) : Path :=
  if q.root.isEmpty then { p with parts := p.parts ++ q.parts } else q

/-- The path to an entry of a directory, its name given as text. -/
def entry (p : Path) (name : String) : Path :=
  p.join (ofString name)

/-- The last name. -/
def name (p : Path) : String :=
  p.parts.getLast?.getD ""

/-- The path without its last name. -/
def parent (p : Path) : Path :=
  { p with parts := p.parts.dropLast }

theorem length_parts_parent_lt (p : Path) (h : p.parts ≠ []) :
    p.parent.parts.length < p.parts.length := by
  have := List.length_pos_iff.2 h
  simp only [parent, List.length_dropLast]
  omega

/-- The names that lead to a place from the top, one more name taken. -/
def step (place : List String) (name : String) : List String :=
  if name = ".." then place.dropLast else place ++ [name]

/-- The path from the top, seen from a working directory, without double dots. -/
def resolve (workingDirectory : List String) (p : Path) : Path :=
  let start := if p.root.isEmpty then workingDirectory else []
  { root := if p.root.isEmpty then "/" else p.root, parts := p.parts.foldl step start }

end Path

end HomeCatalog
