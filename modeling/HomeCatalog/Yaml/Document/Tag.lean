import HomeCatalog.Pattern.Reader
import HomeCatalog.Pattern.Search

/-!
# Tags

What a tag says about a node: the type of the value that the node stands for. A scalar without a tag
has the type that its form suggests: `Tag.ofPlain` reads `yes` as a truth value, `0x1F` and `12:30`
as integers, `1.5` as a number and `2020-01-01` as a date. The forms are regular expressions.
-/

namespace HomeCatalog.Yaml

/-- The type that a tag stands for. -/
inductive Tag
  | null
  | truth
  | int
  | number
  | binary
  | timestamp
  | orderedMap
  | pairs
  | set
  | text
  | sequence
  | mapping
  /-- The key of mappings to be merged into this one. -/
  | merge
  /-- The key of the scalar that a mapping stands for where a scalar is wanted. -/
  | default
  /-- A type that no value has. -/
  | unknown
deriving DecidableEq, Repr

namespace Tag

/-- What the tags of the language itself begin with. -/
def languagePart : String := "tag:yaml.org,2002:"

/-- The type of a tag that is written out. -/
def ofString (s : String) : Tag :=
  match s.dropPrefix? languagePart with
  | none => .unknown
  | some name =>
    match name.toString with
    | "null" => .null
    | "bool" => .truth
    | "int" => .int
    | "float" => .number
    | "binary" => .binary
    | "timestamp" => .timestamp
    | "omap" => .orderedMap
    | "pairs" => .pairs
    | "set" => .set
    | "str" => .text
    | "seq" => .sequence
    | "map" => .mapping
    | "merge" => .merge
    | "value" => .default
    | _ => .unknown

/-- The pattern of an expression; one that cannot be read describes nothing. -/
def form (expression : String) : Pattern.Node :=
  (Pattern.Node.ofString? expression).getD .never

/-- The words for truth values. -/
def truthForm : Pattern.Node :=
  form ("^(?:yes|Yes|YES|no|No|NO|true|True|TRUE|false|False|FALSE|" ++
    "on|On|ON|off|Off|OFF)$")

/-- A number with a point, in base ten or sixty, or an infinity, or no number at all. -/
def numberForm : Pattern.Node :=
  form (r"^(?:[-+]?[0-9][0-9_]*\.[0-9_]*(?:[eE][-+][0-9]+)?|" ++
    r"\.[0-9][0-9_]*(?:[eE][-+][0-9]+)?|" ++
    r"[-+]?[0-9][0-9_]*(?::[0-5]?[0-9])+\.[0-9_]*|" ++
    r"[-+]?\.(?:inf|Inf|INF)|\.(?:nan|NaN|NAN))$")

/-- A whole number in base two, eight, ten, sixteen or sixty. -/
def intForm : Pattern.Node :=
  form ("^(?:[-+]?0b[0-1_]+|[-+]?0[0-7_]+|[-+]?(?:0|[1-9][0-9_]*)|" ++
    "[-+]?0x[0-9a-fA-F_]+|[-+]?[1-9][0-9_]*(?::[0-5]?[0-9])+)$")

/-- The words for nothing, and no word at all. -/
def nullForm : Pattern.Node :=
  form r"^(?:~|null|Null|NULL)$|^\Z"

/-- A date, or a date and a time. -/
def timestampForm : Pattern.Node :=
  form ("^(?:[0-9][0-9][0-9][0-9]-[0-9][0-9]-[0-9][0-9]|" ++
    "[0-9][0-9][0-9][0-9]-[0-9][0-9]?-[0-9][0-9]?" ++
    r"(?:[Tt]|[ \t]+)[0-9][0-9]?:[0-9][0-9]:[0-9][0-9](?:\.[0-9]*)?" ++
    r"(?:[ \t]*(?:Z|[-+][0-9][0-9]?(?::[0-9][0-9])?))?)$")

/-- The types that plain scalars have by their form. -/
def forms : List (Tag × Pattern.Node) :=
  [(truth, truthForm), (number, numberForm), (int, intForm), (merge, form "^<<$"),
   (null, nullForm), (timestamp, timestampForm), (default, form "^=$"),
   (unknown, form r"^[!&*]$")]

/-- The type that a plain scalar has by its form. -/
def ofPlain (s : String) : Tag :=
  ((forms.find? fun f => (f.2.captures? s).isSome).map (·.1)).getD text

end Tag

end HomeCatalog.Yaml
