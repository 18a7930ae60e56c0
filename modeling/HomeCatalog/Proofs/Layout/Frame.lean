import HomeCatalog.Layout.Text
import HomeCatalog.Proofs.Decimal.Digits

/-!
# Bracketed lists are read back

A list between brackets is written in a frame (`Frame.write`): the brackets, what stands between an
item and the next, and what stands before the closing bracket. On one line the last two are spaces,
and on lines of their own they are line ends with a margin. A list can be read back
(`Frame.read_write`) if each of its items ends where the reader of items finds the frame go on.

A separator begins with a comma and the closing of a list ends in its bracket. A text that holds
neither can thus not be taken to hold the beginning of one, although a line end may be any text
(`Frame.not_stops_append`).
-/

namespace HomeCatalog

/-- A reader takes something off the beginning of a text and leaves the rest. -/
abbrev Reader (α : Type) := List Char → Option (α × List Char)

/-- The rest of a text that begins so. -/
def takeOff? (lead cs : List Char) : Option (List Char) :=
  if lead <+: cs then some (cs.drop lead.length) else none

theorem takeOff?_append (lead cs : List Char) : takeOff? lead (lead ++ cs) = some cs := by
  rw [takeOff?, if_pos (List.prefix_append lead cs), List.drop_left]

theorem takeOff?_eq_none {lead cs : List Char} (h : ¬lead <+: cs) :
    takeOff? lead cs = none := if_neg h

/-- What is written around the items of a list. -/
structure Frame where
  opening : Char
  ending : Char
  /-- What stands before the closing bracket, and before each item and its further margin. -/
  edge : List Char
  margin : List Char
  ending_ne : ending ≠ ','

namespace Frame

/-- The frame of a list on one line, or on lines of its own. -/
def ofLayout (opening ending : Char) (hne : ending ≠ ',') (newline : String) (indent : Int)
    (inline : Bool) : Frame where
  opening := opening
  ending := ending
  edge := if inline then [' '] else newline.toList ++ (pad indent).toList
  margin := if inline then [] else List.replicate ((indent + 2).toNat - indent.toNat) ' '
  ending_ne := hne

def lead (f : Frame) : List Char := f.opening :: (f.edge ++ f.margin)

def separator (f : Frame) : List Char := ',' :: (f.edge ++ f.margin)

def closing (f : Frame) : List Char := f.edge ++ [f.ending]

def write (f : Frame) (items : List (List Char)) : List Char :=
  f.lead ++ (f.separator.intercalate items ++ f.closing)

/-- The list goes on with another item here, or ends. -/
def Stops (f : Frame) (rest : List Char) : Prop :=
  f.closing <+: rest ∨ f.separator <+: rest

instance (f : Frame) (rest : List Char) : Decidable (f.Stops rest) :=
  inferInstanceAs (Decidable (_ ∨ _))

/-- Read items, as many as the fuel at most, up to the closing bracket. -/
def readItems (f : Frame) {α : Type} (item : Reader α) : Nat → Reader (List α)
  | 0, _ => none
  | fuel + 1, cs =>
    (item cs).bind fun (a, rest) =>
      match takeOff? f.closing rest with
      | some rest => some ([a], rest)
      | none => (takeOff? f.separator rest).bind fun rest =>
        (f.readItems item fuel rest).map fun (as, rest) => (a :: as, rest)

def read (f : Frame) {α : Type} (item : Reader α) : Reader (List α) := fun cs =>
  -- Between each two items stands a comma, so there are no more items than characters.
  (takeOff? f.lead cs).bind fun rest => f.readItems item rest.length rest

end Frame

/-! ## Lists as they are laid out -/

theorem toList_commaLines {newline margin : String} {items : List String} (hne : items ≠ []) :
    (commaLines newline margin items).toList =
      margin.toList ++
        (',' :: (newline.toList ++ margin.toList)).intercalate (items.map String.toList) := by
  induction items with
  | nil => exact absurd rfl hne
  | cons i is ih =>
    cases is with
    | nil =>
      rw [commaLines, String.toList_append, List.map_singleton, List.intercalate_singleton]
    | cons j js =>
      have hcomma : (",":String).toList = [','] := rfl
      rw [commaLines, List.map_cons, List.map_cons, List.intercalate_cons_cons, ← List.map_cons,
        String.toList_append, ih (List.cons_ne_nil _ _)]
      · simp [hcomma]
      · exact List.cons_ne_nil _ _

theorem Frame.toList_bracketed (opening ending : Char) (hne : ending ≠ ',') (newline : String)
    (indent : Int) (inline : Bool) {items : List String} (hitems : items ≠ []) :
    (bracketed (String.singleton opening) (String.singleton ending) newline indent inline
        items).toList =
      (ofLayout opening ending hne newline indent inline).write (items.map String.toList) := by
  have hempty : items.isEmpty = false := by simpa using hitems
  rw [bracketed, hempty, if_neg Bool.false_ne_true, write, lead, separator, closing, ofLayout]
  cases inline with
  | true => simp
  | false =>
    have hpad : (pad (indent + 2)).toList =
        (pad indent).toList ++ List.replicate ((indent + 2).toNat - indent.toNat) ' ' := by
      rw [pad, pad, String.toList_ofList, String.toList_ofList, List.replicate_append_replicate]
      congr 1
      omega
    simp [toList_commaLines hitems, hpad]

/-! ## Where a list goes on -/

/-- If a text before `m` makes it begin with `m` and a character then the text holds the character:
moved against itself, `m` only repeats the text. -/
theorem mem_of_append_eq {c : Char} {w : List Char} (hw : w ≠ []) (m : List Char)
    {r s : List Char} (h : w ++ (m ++ r) = m ++ c :: s) : c ∈ w := by
  rcases List.append_eq_append_iff.1 h with ⟨t, hm, ht⟩ | ⟨t, hm, ht⟩
  · -- `m` begins with `w`, so what is left of `m` is met by the rest of `m` in turn.
    have hlt : t.length < m.length := by
      have := List.length_pos_iff.2 hw
      rw [hm, List.length_append]
      omega
    rw [hm, List.append_assoc] at ht
    exact mem_of_append_eq hw t ht
  · cases t with
    | nil =>
      rw [List.append_nil] at hm
      subst hm
      cases w with
      | nil => exact absurd rfl hw
      | cons d ds =>
        obtain rfl : c = d := (List.cons.inj ht).1
        exact List.mem_cons_self
    | cons d ds =>
      obtain rfl : c = d := (List.cons.inj ht).1
      rw [hm]
      exact List.mem_append_right _ List.mem_cons_self
termination_by m.length

namespace Frame

variable {f : Frame}

theorem closing_append (rest : List Char) : f.closing ++ rest = f.edge ++ f.ending :: rest := by
  rw [closing, List.append_assoc, List.singleton_append]

theorem separator_append (rest : List Char) :
    f.separator ++ rest = [','] ++ (f.edge ++ (f.margin ++ rest)) := by
  rw [separator, List.cons_append, List.append_assoc]
  rfl

theorem stops_closing (rest : List Char) : f.Stops (f.closing ++ rest) :=
  .inl (List.prefix_append _ _)

theorem stops_separator (rest : List Char) : f.Stops (f.separator ++ rest) :=
  .inr (List.prefix_append _ _)

theorem Stops.cases {rest : List Char} (h : f.Stops rest) :
    (∃ s, rest = f.closing ++ s) ∨ ∃ s, rest = f.separator ++ s := by
  rcases h with ⟨s, hs⟩ | ⟨s, hs⟩
  · exact .inl ⟨s, hs.symm⟩
  · exact .inr ⟨s, hs.symm⟩

/-- A text without the closing bracket, and with the edge behind it, does not begin as the closing
of a list does. -/
theorem not_closing_at {w : List Char} (hw : w ≠ []) (hending : f.ending ∉ w)
    (rest : List Char) : ¬f.closing <+: w ++ (f.edge ++ rest) := by
  rintro ⟨s, hs⟩
  rw [closing_append] at hs
  exact hending (mem_of_append_eq hw f.edge hs.symm)

theorem not_closing_at_separator (rest : List Char) :
    ¬f.closing <+: f.separator ++ rest := by
  rw [separator_append]
  refine not_closing_at (List.cons_ne_nil _ _) ?_ _
  rw [List.mem_singleton]
  exact f.ending_ne

/-- A text without commas and closing brackets is read over up to where the list goes on. -/
theorem not_stops_append {w rest : List Char} (hw : w ≠ []) (hcomma : ',' ∉ w)
    (hending : f.ending ∉ w) (hrest : f.Stops rest) : ¬f.Stops (w ++ rest) := by
  rintro (hclosing | hseparator)
  · rcases hrest.cases with ⟨s, rfl⟩ | ⟨s, rfl⟩
    · rw [closing_append] at hclosing
      exact not_closing_at hw hending _ hclosing
    · rw [separator_append, ← List.append_assoc] at hclosing
      refine not_closing_at (List.append_ne_nil_of_left_ne_nil hw _) ?_ _ hclosing
      rw [List.mem_append, List.mem_singleton]
      exact not_or.2 ⟨hending, f.ending_ne⟩
  · obtain ⟨s, hs⟩ := hseparator
    cases w with
    | nil => exact hw rfl
    | cons c w =>
      obtain rfl : ',' = c := (List.cons.inj hs).1
      exact hcomma List.mem_cons_self

/-! ## Reading a list -/

section Read

variable {α β : Type} {item : Reader β} {text : α → List Char} {meaning : α → β} {as : List α}

/-- The items are read one after the other, each of them up to where the list goes on. -/
theorem readItems_intercalate (hne : as ≠ [])
    (hitem : ∀ a ∈ as, ∀ rest, f.Stops rest → item (text a ++ rest) = some (meaning a, rest))
    {fuel : Nat} (hfuel : as.length ≤ fuel) (rest : List Char) :
    f.readItems item fuel (f.separator.intercalate (as.map text) ++ (f.closing ++ rest)) =
      some (as.map meaning, rest) := by
  induction as generalizing fuel with
  | nil => exact absurd rfl hne
  | cons a as ih =>
    obtain ⟨ha, has⟩ := List.forall_mem_cons.1 hitem
    cases fuel with
    | zero => cases hfuel
    | succ fuel =>
      cases as with
      | nil =>
        rw [readItems, List.map_singleton, List.intercalate_singleton, ha _ (stops_closing rest),
          Option.bind_some]
        dsimp only
        rw [takeOff?_append]
        rfl
      | cons b bs =>
        rw [List.map_cons, List.map_cons, List.intercalate_cons_cons, ← List.map_cons,
          List.append_assoc, List.append_assoc, readItems, ha _ (stops_separator _),
          Option.bind_some]
        dsimp only
        rw [takeOff?_eq_none (not_closing_at_separator _), takeOff?_append]
        dsimp only
        rw [Option.bind_some, ih (List.cons_ne_nil _ _) has (Nat.le_of_succ_le_succ hfuel)]
        rfl

theorem length_le_intercalate (f : Frame) (items : List (List Char)) :
    items.length ≤ (f.separator.intercalate items).length + 1 := by
  induction items with
  | nil => exact Nat.zero_le _
  | cons i is ih =>
    cases is with
    | nil => simp
    | cons j js =>
      rw [List.intercalate_cons_cons, List.length_append, List.length_append, List.length_cons]
      have hseparator : 0 < f.separator.length := Nat.succ_pos _
      omega

theorem read_write (hne : as ≠ [])
    (hitem : ∀ a ∈ as, ∀ rest, f.Stops rest → item (text a ++ rest) = some (meaning a, rest))
    (rest : List Char) :
    f.read item (f.write (as.map text) ++ rest) = some (as.map meaning, rest) := by
  have hfuel : as.length ≤
      (f.separator.intercalate (as.map text) ++ (f.closing ++ rest)).length := by
    have hlength := f.length_le_intercalate (as.map text)
    rw [List.length_map] at hlength
    rw [List.length_append, List.length_append, closing, List.length_append, List.length_singleton]
    omega
  rw [read, write, List.append_assoc, List.append_assoc, takeOff?_append, Option.bind_some,
    readItems_intercalate hne hitem hfuel]

end Read

/-- Read up to where the list goes on. -/
def readBare (f : Frame) : Reader (List Char)
  | [] => none
  | c :: cs =>
    if f.Stops (c :: cs) then some ([], c :: cs)
    else (f.readBare cs).map fun r => (c :: r.1, r.2)

theorem readBare_append {w rest : List Char} (hcomma : ',' ∉ w) (hending : f.ending ∉ w)
    (hrest : f.Stops rest) : f.readBare (w ++ rest) = some (w, rest) := by
  induction w with
  | nil =>
    cases rest with
    | nil => rcases hrest.cases with ⟨s, hs⟩ | ⟨s, hs⟩ <;> simp [closing, separator] at hs
    | cons c cs => rw [List.nil_append, readBare, if_pos hrest]
  | cons c w ih =>
    have hstops := not_stops_append (List.cons_ne_nil c w) hcomma hending hrest
    rw [List.cons_append] at hstops ⊢
    rw [readBare, if_neg hstops, ih (List.not_mem_of_not_mem_cons hcomma)
      (List.not_mem_of_not_mem_cons hending)]
    rfl

end Frame

end HomeCatalog
