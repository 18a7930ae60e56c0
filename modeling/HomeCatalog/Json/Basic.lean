import HomeCatalog.Decimal.Basic
import HomeCatalog.Text.Letters

/-!
# JSON documents

The value of a JSON document. Whole numbers are integers of any size, numbers with a fraction or an
exponent are exact decimals, texts may hold halves of surrogate pairs, and the members of an object
keep their order. `putMember` is what a repeated name does: the first place and the last value
count.
-/

namespace HomeCatalog

/-- A number word that stands for no finite number. -/
inductive SpecialNumber
  | notANumber
  | infinity
  | minusInfinity
deriving DecidableEq, Repr

/-- The value of a JSON document. -/
inductive Json
  | null
  | bool (b : Bool)
  | int (n : Int)
  | decimal (d : Decimal)
  | special (n : SpecialNumber)
  | text (s : Letters)
  | list (items : List Json)
  | object (members : List (Letters × Json))
deriving Repr, Inhabited

namespace Json

/-- The members with one more: a name that is there already keeps its place and takes the value. -/
def putMember {α : Type} (members : List (Letters × α)) (name : Letters) (value : α) :
    List (Letters × α) :=
  match members with
  | [] => [(name, value)]
  | (n, v) :: rest => if n = name then (n, value) :: rest else (n, v) :: putMember rest name value

/-- Whether a value counts as given: neither null, nor false, nor a zero, nor empty. -/
def isGiven : Json → Bool
  | .null => false
  | .bool b => b
  | .int n => n != 0
  | .decimal d => !d.isZero
  | .special _ => true
  | .text s => !s.isEmpty
  | .list items => !items.isEmpty
  | .object members => !members.isEmpty

end Json

end HomeCatalog
