import HomeCatalog.Json.Reader
import HomeCatalog.Proofs.Decimal.Digits
import HomeCatalog.Proofs.Traversal
import Mathlib.Data.List.Chain

/-!
# Documents that were read

The reader makes well-formed values only (`Json.wellFormed_of_parse`): it checks every number when
it makes it, a name that an object has already gets no second member, and two halves of a surrogate
pair that meet in a text become one character. The induction is on the
fuel of the reading functions, with one statement for a value, one for the items and one for the
members that are still to come (`Json.ReadsWellFormed`).

`Json.Held` is the part of this that concerns decimals (`Json.held_of_parse`).
-/

namespace HomeCatalog

/-! ## Settled texts -/

/-- Two letters that stay two side by side: not the halves of one pair. -/
def Letter.Apart : Letter → Letter → Prop
  | .high _, .low _ => False
  | _, _ => True

/-- No first half of a surrogate pair stands right before a second half: read, they are one
character. -/
def Letters.Settled (s : Letters) : Prop :=
  s.list.IsChain Letter.Apart

theorem Letter.apart_char (l : Letter) (c : Char) : l.Apart (.char c) := by
  cases l <;> trivial

theorem Letters.settled_ofString (s : String) : (ofString s).Settled := by
  unfold Settled ofString
  induction s.toList with
  | nil => exact .nil
  | cons c cs ih =>
    refine List.IsChain.cons ih fun l hl => ?_
    obtain ⟨d, -, rfl⟩ := List.mem_map.1 (List.mem_of_mem_head? hl)
    exact Letter.apart_char _ d

namespace Json

mutual

/-- Every decimal in the value can be held. -/
def Held : Json → Prop
  | .decimal d => d.InRange
  | .list items => ItemsHeld items
  | .object members => MembersHeld members
  | .null | .bool _ | .int _ | .special _ | .text _ => True

def ItemsHeld : List Json → Prop
  | [] => True
  | j :: rest => Held j ∧ ItemsHeld rest

def MembersHeld : List (Letters × Json) → Prop
  | [] => True
  | (_, j) :: rest => Held j ∧ MembersHeld rest

end

@[simp] theorem itemsHeld_iff {items : List Json} : ItemsHeld items ↔ ∀ j ∈ items, j.Held := by
  induction items with
  | nil => simp [ItemsHeld]
  | cons j rest ih => rw [ItemsHeld, ih, List.forall_mem_cons]

@[simp] theorem membersHeld_iff {members : List (Letters × Json)} :
    MembersHeld members ↔ ∀ m ∈ members, m.2.Held := by
  induction members with
  | nil => simp [MembersHeld]
  | cons m rest ih =>
    obtain ⟨name, j⟩ := m
    rw [MembersHeld, ih, List.forall_mem_cons]

theorem held_list {items : List Json} : (list items).Held ↔ ∀ j ∈ items, j.Held := by
  rw [Held, itemsHeld_iff]

theorem held_object {members : List (Letters × Json)} :
    (object members).Held ↔ ∀ m ∈ members, m.2.Held := by
  rw [Held, membersHeld_iff]

/-- A value as the reader makes it: each number in it can be held, no text in it has the two halves
of a surrogate pair side by side, and no object has two members of one name. -/
inductive WellFormed : Json → Prop
  | null : WellFormed .null
  | bool (b : Bool) : WellFormed (.bool b)
  | int {n : Int} (h : (Nat.toDigits 10 n.natAbs).length ≤ maxIntegerDigits) : WellFormed (.int n)
  | decimal {d : Decimal} (h : d.InRange) : WellFormed (.decimal d)
  | special (n : SpecialNumber) : WellFormed (.special n)
  | text {s : Letters} (h : s.Settled) : WellFormed (.text s)
  | list {items : List Json} (h : ∀ j ∈ items, WellFormed j) : WellFormed (.list items)
  | object {members : List (Letters × Json)} (hnames : (members.map Prod.fst).Nodup)
    (hsettled : ∀ m ∈ members, m.1.Settled) (h : ∀ m ∈ members, WellFormed m.2) :
    WellFormed (.object members)

theorem WellFormed.held {j : Json} (h : j.WellFormed) : j.Held := by
  induction h with
  | decimal hrange => exact hrange
  | list _ ih => exact held_list.2 ih
  | object _ _ _ ih => exact held_object.2 ih
  | _ => trivial

theorem WellFormed.members {members : List (Letters × Json)}
    (h : (Json.object members).WellFormed) :
    (members.map Prod.fst).Nodup ∧ (∀ m ∈ members, m.1.Settled) ∧
      ∀ m ∈ members, m.2.WellFormed := by
  cases h with
  | object hnames hsettled hmembers => exact ⟨hnames, hsettled, hmembers⟩

/-! ## Members -/

section PutMember

variable {α : Type} {members : List (Letters × α)} {name : Letters} {value : α}

theorem eq_or_mem_of_mem_putMember {m : Letters × α} (h : m ∈ putMember members name value) :
    m = (name, value) ∨ m ∈ members := by
  induction members with
  | nil => exact .inl (List.mem_singleton.1 h)
  | cons first rest ih =>
    obtain ⟨n, v⟩ := first
    rw [putMember] at h
    split at h
    · next hname =>
      obtain rfl | hrest := List.mem_cons.1 h
      · exact .inl (by rw [hname])
      · exact .inr (List.mem_cons_of_mem _ hrest)
    · obtain rfl | hrest := List.mem_cons.1 h
      · exact .inr List.mem_cons_self
      · exact (ih hrest).imp_right (List.mem_cons_of_mem _)

/-- A repeated name changes the value of a member and nothing else. -/
theorem nodup_putMember (h : (members.map Prod.fst).Nodup) :
    ((putMember members name value).map Prod.fst).Nodup := by
  induction members with
  | nil => exact List.pairwise_singleton _ name
  | cons first rest ih =>
    obtain ⟨n, v⟩ := first
    obtain ⟨hfirst, hrest⟩ := List.nodup_cons.1 h
    rw [putMember]
    split
    · exact h
    · next hname =>
      refine List.nodup_cons.2 ⟨fun hmem => ?_, ih hrest⟩
      obtain ⟨m, hm, hmn⟩ := List.mem_map.1 hmem
      obtain rfl | hm := eq_or_mem_of_mem_putMember hm
      · exact hname hmn.symm
      · exact hfirst (List.mem_map.2 ⟨m, hm, hmn⟩)

end PutMember

/-! ## Texts -/

/-- The letters read are kept last first, so the chain goes backwards. -/
abbrev ApartBackwards (read : List Letter) : Prop :=
  read.IsChain fun l l' => l'.Apart l

theorem apartBackwards_char {read : List Letter} (h : ApartBackwards read) (c : Char) :
    ApartBackwards (.char c :: read) :=
  h.cons fun l _ => Letter.apart_char l c

theorem apartBackwards_addUnit {read : List Letter} (h : ApartBackwards read) (n : Nat) :
    ApartBackwards (addUnit read n) := by
  unfold addUnit
  split
  · exact apartBackwards_char h.tail _
  · next hpair =>
    refine h.cons fun l hl => ?_
    obtain ⟨before, rfl⟩ := List.head?_eq_some_iff.1 hl
    cases hn : Letter.ofCode n with
    | char c => exact Letter.apart_char l c
    | high k => cases l <;> trivial
    | low k =>
      cases l with
      | high first => exact (hpair k first before hn rfl).elim
      | _ => trivial

theorem settled_of_readText {start cs rest : List Char} {read : List Letter} {s : Letters}
    (hread : ApartBackwards read) (h : readText start read cs = .ok (s, rest)) : s.Settled := by
  fun_induction readText start read cs with
  | case2 =>
    cases h
    exact List.isChain_reverse.2 hread
  | case5 read a b c d rest _ n _ ih => exact ih (apartBackwards_addUnit hread n) h
  | case7 read c rest _ _ d _ ih => exact ih (apartBackwards_char hread d) h
  | case11 read c rest _ _ _ _ _ _ ih => exact ih (apartBackwards_char hread c) h
  | _ => cases h

/-! ## Numbers -/

theorem wellFormed_int {negative : Bool} {ds : List Char} (hne : ds ≠ [])
    (h : ds.length ≤ maxIntegerDigits) :
    (int (if negative then -(Decimal.digitsValue ds : Int) else Decimal.digitsValue ds)).WellFormed
    := by
  have habs : (if negative then -(Decimal.digitsValue ds : Int)
      else Decimal.digitsValue ds).natAbs = Decimal.digitsValue ds := by
    cases negative <;> simp
  apply WellFormed.int
  rw [habs]
  exact (Decimal.length_toDigits_le hne).trans h

theorem wellFormed_of_readNumberAfter {negative : Bool} {whole cs rest : List Char} {j : Json}
    (hne : whole ≠ []) (h : readNumberAfter negative whole cs = .ok (j, rest)) :
    j.WellFormed := by
  unfold readNumberAfter at h
  dsimp only at h
  split at h
  · split at h
    · cases h
    · next hlength =>
      cases h
      exact wellFormed_int hne (Nat.not_lt.1 hlength)
  · split at h
    · next hrange =>
      cases h
      exact .decimal hrange
    · cases h

theorem wellFormed_of_readNumber {cs rest : List Char} {j : Json}
    (h : readNumber cs = .ok (j, rest)) : j.WellFormed := by
  unfold readNumber at h
  split at h
  all_goals
    dsimp only at h
    split at h
    · exact wellFormed_of_readNumberAfter (List.cons_ne_nil _ _) h
    · split at h
      · cases h
      · next hne => exact wellFormed_of_readNumberAfter (by simpa using hne) h

/-! ## Values -/

/-- With this much fuel only well-formed values are read. -/
structure ReadsWellFormed (fuel : Nat) : Prop where
  value : ∀ {cs rest j}, readValue fuel cs = .ok (j, rest) → j.WellFormed
  items : ∀ {items cs rest j}, (∀ item ∈ items, item.WellFormed) →
    readItems fuel items cs = .ok (j, rest) → j.WellFormed
  members : ∀ {members cs rest j}, (object members).WellFormed →
    readMembers fuel members cs = .ok (j, rest) → j.WellFormed

theorem wellFormed_putMember {members : List (Letters × Json)} {name : Letters} {value : Json}
    (h : (object members).WellFormed) (hname : name.Settled) (hvalue : value.WellFormed) :
    (object (putMember members name value)).WellFormed := by
  obtain ⟨hnames, hsettled, hmembers⟩ := h.members
  refine .object (nodup_putMember hnames) (fun m hm => ?_) fun m hm => ?_
  · obtain rfl | hm := eq_or_mem_of_mem_putMember hm
    · exact hname
    · exact hsettled m hm
  · obtain rfl | hm := eq_or_mem_of_mem_putMember hm
    · exact hvalue
    · exact hmembers m hm

theorem wellFormed_emptyObject : (object []).WellFormed :=
  .object List.nodup_nil (List.forall_mem_nil _) (List.forall_mem_nil _)

section Step

variable {fuel : Nat} (ih : ReadsWellFormed fuel) {cs rest : List Char} {j : Json}

include ih in
theorem wellFormed_of_readValue (h : readValue (fuel + 1) cs = .ok (j, rest)) :
    j.WellFormed := by
  unfold readValue at h
  split at h
  · obtain ⟨r, hread, hr⟩ := map_eq_ok_iff.1 h
    cases hr
    exact .text (settled_of_readText List.isChain_nil hread)
  · split at h
    · cases h
      exact wellFormed_emptyObject
    · exact ih.members wellFormed_emptyObject h
  · split at h
    · cases h
      exact .list (List.forall_mem_nil _)
    · exact ih.items (List.forall_mem_nil _) h
  any_goals exact wellFormed_of_readNumber h
  -- What is left are the words.
  all_goals
    cases h
    constructor

include ih in
theorem wellFormed_of_readItems {items : List Json} (hitems : ∀ item ∈ items, item.WellFormed)
    (h : readItems (fuel + 1) items cs = .ok (j, rest)) : j.WellFormed := by
  unfold readItems at h
  split at h
  · cases h
  · next item rest hitem =>
    have hall : ∀ i ∈ item :: items, i.WellFormed :=
      List.forall_mem_cons.2 ⟨ih.value hitem, hitems⟩
    split at h
    · cases h
      exact .list fun i hi => hall i (List.mem_reverse.1 hi)
    · exact ih.items hall h
    · cases h

include ih in
theorem wellFormed_of_readMembers {members : List (Letters × Json)}
    (hmembers : (object members).WellFormed)
    (h : readMembers (fuel + 1) members cs = .ok (j, rest)) : j.WellFormed := by
  unfold readMembers at h
  split at h
  · split at h
    · cases h
    · next name afterName hreadName =>
      have hname := settled_of_readText List.isChain_nil hreadName
      split at h
      · split at h
        · cases h
        · next value rest hvalue =>
          have hput := wellFormed_putMember hmembers hname (ih.value hvalue)
          dsimp only at h
          split at h
          · cases h
            exact hput
          · exact ih.members hput h
          · cases h
      · cases h
  · cases h

end Step

theorem readsWellFormed (fuel : Nat) : ReadsWellFormed fuel := by
  induction fuel with
  | zero =>
    refine ⟨fun h => ?_, fun _ h => ?_, fun _ h => ?_⟩
    · rw [readValue] at h
      cases h
    · rw [readItems] at h
      cases h
    · rw [readMembers] at h
      cases h
  | succ fuel ih =>
    exact ⟨wellFormed_of_readValue ih, wellFormed_of_readItems ih, wellFormed_of_readMembers ih⟩

/-! ## Documents -/

theorem wellFormed_of_parse {text : String} {j : Json} (h : parse text = .ok j) :
    j.WellFormed := by
  unfold parse readDocument at h
  split at h
  · cases h
  · next j' hj =>
    cases h
    split at hj
    · cases hj
    · split at hj
      · cases hj
      · next hvalue =>
        split at hj
        · cases hj
          exact (readsWellFormed _).value hvalue
        · cases hj

/-- The reader makes no decimal that cannot be held. -/
theorem held_of_parse {text : String} {j : Json} (h : parse text = .ok j) : j.Held :=
  (wellFormed_of_parse h).held

end Json

end HomeCatalog
