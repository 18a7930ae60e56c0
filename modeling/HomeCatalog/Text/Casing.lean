import HomeCatalog.Text.Casing.Table

/-!
# Letter case

The full case mappings of Unicode 14. A character may become several (`ß` becomes `SS`), and a
capital sigma becomes a final sigma where a word ends. `sameLetter` is equality of characters up to
case: the relation that a case-blind search uses.
-/

namespace HomeCatalog.Text

/-- The counterpart of a code point in a list of runs. -/
def runTarget? (runs : List CaseRun) (n : Nat) : Option Nat :=
  (runs.find? fun r => r.1 ≤ n && n ≤ r.2.1 && (n - r.1) % r.2.2.1 == 0).map
    fun r => ((n : Int) + r.2.2.2).toNat

/-- The lower-case counterpart of one character, as one character. -/
def lowerChar (c : Char) : Char :=
  if c.toNat = 0x130 then 'i'
  else match runTarget? lowerRuns c.toNat with
    | some n => Char.ofNat n
    | none => c

/-- The lower-case counterpart of one character, a sigma outside a final position included. -/
def lowerFull (c : Char) : List Char :=
  if c.toNat = 0x130 then ['i', Char.ofNat 0x307] else [lowerChar c]

/-- The upper-case counterpart of one character. -/
def upperFull (c : Char) : List Char :=
  match upperExpansions.lookup c.toNat with
  | some ns => ns.map Char.ofNat
  | none =>
    match runTarget? upperRuns c.toNat with
    | some n => [Char.ofNat n]
    | none => [c]

/-- Whether a cased character comes first once the skippable ones are passed over. -/
def meetsCased (cs : List Char) : Bool :=
  match cs.dropWhile caseIgnorableRanges.has with
  | c :: _ => casedRanges.has c
  | [] => false

/-- Lower case of what is left of a text, `before` being what stands before it, last character
first. A capital sigma is final where a cased letter stands before it and none after it. -/
def lowerAfter (before : List Char) : List Char → List Char
  | [] => []
  | c :: cs =>
    (if c.toNat = 0x3A3 then
      [Char.ofNat (if meetsCased before && !meetsCased cs then 0x3C2 else 0x3C3)]
    else lowerFull c) ++ lowerAfter (c :: before) cs

/-- The text in lower case. -/
def lower (s : String) : String :=
  String.ofList (lowerAfter [] s.toList)

/-- The text in upper case. -/
def upper (s : String) : String :=
  String.ofList (s.toList.flatMap upperFull)

/-- Two characters that differ in case only. -/
def sameLetter (a b : Char) : Bool :=
  upperFull (lowerChar a) == upperFull (lowerChar b)

/-- Two characters that differ in case only, where case is a matter of the letters `a` to `z`. -/
def sameAsciiLetter (a b : Char) : Bool :=
  a.toLower == b.toLower

/-- The code points that a list of runs maps to `n`. -/
def runSources (runs : List CaseRun) (n : Nat) : List Nat :=
  runs.filterMap fun r =>
    let m := (n : Int) - r.2.2.2
    if (r.1 : Int) ≤ m && m ≤ (r.2.1 : Int) && (m - r.1) % (r.2.2.1 : Int) == 0 then some m.toNat
    else none

/-- The characters that differ from `c` in case only, `c` among them. -/
def caseVariants (c : Char) : List Char :=
  let capital := upperFull (lowerChar c)
  let direct := match capital with
    | [u] => u.toNat :: runSources upperRuns u.toNat
    | _ => []
  let expanded := upperExpansions.filterMap fun e =>
    if e.2.map Char.ofNat == capital then some e.1 else none
  let smalls := lowerChar c :: (direct ++ expanded).map Char.ofNat
  let all := c :: smalls ++ (smalls.flatMap fun s => runSources lowerRuns s.toNat).map Char.ofNat
  (if all.contains 'i' then Char.ofNat 0x130 :: all else all).filter (sameLetter c)

end HomeCatalog.Text
