import HomeCatalog.Pattern.Reader
import HomeCatalog.Pattern.Search
import HomeCatalog.Yaml.Document.Cursor

/-!
# Dates of scalars

The texts of scalars that are tagged as dates: a day of the calendar, with or without a time of that
day, which may be given for a zone less than a day away from the common time.
-/

namespace HomeCatalog.Yaml

/-- A date, and the parts of a time and a zone. -/
def datePattern : Pattern.Node :=
  (Pattern.Node.ofString?
    ("^([0-9][0-9][0-9][0-9])-([0-9][0-9]?)-([0-9][0-9]?)" ++
      r"(?:(?:[Tt]|[ \t]+)([0-9][0-9]?):([0-9][0-9]):([0-9][0-9])(?:\.[0-9]*)?" ++
      r"(?:[ \t]*(?:Z|[-+]([0-9][0-9]?)(?::([0-9][0-9]))?))?)?$")).getD .never

/-- Whether a year of the calendar has a leap day. -/
def isLeapYear (year : Nat) : Bool :=
  year % 4 = 0 && (year % 100 ≠ 0 || year % 400 = 0)

/-- The number of days of a month. -/
def daysOfMonth (year : Nat) : Nat → Nat
  | 2 => if isLeapYear year then 29 else 28
  | 4 | 6 | 9 | 11 => 30
  | _ => 31

/-- Whether there is such a day. -/
def isDay (year month day : Nat) : Bool :=
  0 < year && 0 < month && month ≤ 12 && 0 < day && day ≤ daysOfMonth year month

/-- Check the text of a scalar that is tagged as a date; the answer tells whether it has a time. -/
def checkDate (s : String) : Except Fault Bool :=
  match datePattern.captures? s with
  | none => .error .noDate
  | some found =>
    let number := fun (group : Nat) =>
      (found.lookup group).map fun ds => ds.foldl (fun n d => 10 * n + (d.toNat - 48)) 0
    let part := fun (group : Nat) => (number group).getD 0
    let goodZone := part 7 * 60 + part 8 < 24 * 60
    let goodTime := part 4 < 24 && part 5 < 60 && part 6 < 60
    if isDay (part 1) (part 2) (part 3) && goodZone && goodTime then .ok (number 4).isSome
    else .error .impossibleDate

end HomeCatalog.Yaml
