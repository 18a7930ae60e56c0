import HomeCatalog.Database.Properties
import HomeCatalog.Layout.Text
import HomeCatalog.Proofs.Catalog.Values
import HomeCatalog.Proofs.Decimal.Scientific
import HomeCatalog.Proofs.Json.Held

/-!
# What configurations come to

The values of a configuration mean in the output what they mean in the database
(`values_of_configuration`). A member is typed by its JSON value and written as a text, the text is
checked against the kind that the type names, and it is read once more when it is rendered; each of
these steps takes whatever the one before it gives. For decimals this is where scientific notation
is read back, for integers the digits are left alone, and a text is quoted whatever it looks like.
A number that is not finite is refused, and nothing else is.

Decimals are supposed to be in the range in which they can be held. Those of a document are
(`Json.held_of_parse`), and with a document's objects their members (`Json.held_object`).
-/

namespace HomeCatalog.Database

/-! ## Meaning -/

/-- What the right-hand side of a property says, for the value that the configuration holds. -/
def Means (metadata : Bool) : Json → String → Prop
  | .bool b, s => s = literal metadata (if b then "true" else "false")
  | .int n, s => s = String.ofList (Numeral.minus (n < 0) ++ Nat.toDigits 10 n.natAbs)
  | .decimal d, s =>
    ∃ m : Numeral, m.IsAscii ∧ m.toRat = d.toRat ∧ s = literal metadata m.text
  | .text t, s => s = quote t.string
  | .list _, s | .object _, s => ∃ t, s = quote t
  | .null, _ | .special _, _ => False

/-- Whether the value is anything but null. -/
def isStated : Json → Bool
  | .null => false
  | _ => true

/-- The members of a configuration that are not null, in order. -/
def statedMembers (members : List (Letters × Json)) : List (Letters × Json) :=
  (configurationMembers members).filter fun m => isStated m.2

/-! ## One value -/

section Fits

variable (name : String) (metadata : Bool)

/-- The digits of an integer are left alone. -/
theorem fits_int (n : Int) :
    (⟨name, toString n, .int, metadata⟩ : Value).fault? = none ∧
      (⟨name, toString n, .int, metadata⟩ : Value).render = toString n := by
  have hchars : (toString n).toList = Numeral.minus (n < 0) ++ Nat.toDigits 10 n.natAbs := by
    rw [toString_int, String.toList_ofList]
  have hdigits : ∀ c ∈ Nat.toDigits 10 n.natAbs, Text.isDigit c = true :=
    fun c hc => Text.isDigit_of_isDigit (Decimal.isDigit_of_mem_toDigits c hc)
  have hblank : ∀ c ∈ (toString n).toList, Text.isBlank c = false := by
    intro c hc
    rw [hchars, List.mem_append] at hc
    obtain hc | hc := hc
    · rw [Numeral.eq_of_mem_minus hc]
      rfl
    · exact Text.isBlank_of_isDigit (Decimal.isDigit_of_mem_toDigits c hc)
  have hstrip := Text.stripChars_of_forall hblank
  have hunsign : ValueKind.unsign (toString n).toList = Nat.toDigits 10 n.natAbs := by
    have hhead : (Nat.toDigits 10 n.natAbs ++ []).head? ≠ some '-' :=
      Numeral.head?_ne_of_isDigit rfl Nat.toDigits_ne_nil hdigits
    rw [List.append_nil] at hhead
    rw [hchars, Numeral.unsign_minus hhead]
  constructor
  · have hall : Text.isDigits (Nat.toDigits 10 n.natAbs) = true := by
      rw [Text.isDigits, Bool.and_eq_true, List.all_eq_true]
      exact ⟨by simp [Nat.toDigits_ne_nil], hdigits⟩
    unfold Value.fault?
    dsimp only
    rw [hstrip, ValueKind.isSignedInteger, hunsign, if_pos hall]
  · unfold Value.render
    dsimp only
    rw [Text.strip, hstrip, String.ofList_toList]

/-- A decimal is read back from scientific notation and written without an exponent. -/
theorem fits_decimal {d : Decimal} (h : d.InRange) :
    (⟨name, d.scientific, .decimal, metadata⟩ : Value).fault? = none ∧
      (⟨name, d.scientific, .decimal, metadata⟩ : Value).render = literal metadata d.fixed := by
  have hnormal := normalizeDecimal_scientific h
  constructor
  · unfold Value.fault?
    dsimp only
    rw [hnormal]
  · unfold Value.render
    dsimp only
    rw [hnormal]

theorem fits_bool (b : Bool) :
    (⟨name, if b then "true" else "false", .bool, metadata⟩ : Value).fault? = none ∧
      (⟨name, if b then "true" else "false", .bool, metadata⟩ : Value).render =
        literal metadata (if b then "true" else "false") := by
  have hword : Text.lower (Text.strip (if b then "true" else "false")) =
      if b then "true" else "false" := by
    cases b <;> decide
  have htruth : ValueKind.isTruthWord (if b then "true" else "false") = true := by
    cases b <;> decide
  constructor
  · unfold Value.fault?
    dsimp only
    rw [hword, if_pos htruth]
  · unfold Value.render
    dsimp only
    rw [hword]

/-- A text fits whatever it looks like. -/
theorem fits_string (raw : String) :
    (⟨name, raw, .string, metadata⟩ : Value).fault? = none ∧
      (⟨name, raw, .string, metadata⟩ : Value).render = quote raw :=
  ⟨rfl, rfl⟩

end Fits

/-! ## One member -/

section Member

variable {name kind raw : String} {metadata : Bool} {j : Json}

theorem valueIn_of_declared? {k : ValueKind} (h : ValueKind.declared? kind = some k) :
    (⟨name, kind, raw⟩ : Property).valueIn metadata = ⟨name, raw, k, metadata⟩ := by
  rw [Property.valueIn, Property.kind?, h, Option.getD_some]

theorem declared?_names :
    ValueKind.declared? "Bool" = some .bool ∧ ValueKind.declared? "Int" = some .int ∧
      ValueKind.declared? "Decimal" = some .decimal ∧
      ValueKind.declared? "String" = some .string := by
  decide

/-- The check takes what a finite value is declared as, and rendering keeps its meaning. -/
theorem means_of_declaration (hheld : j.Held) (hfinite : ∀ n, j ≠ .special n)
    (h : declaration? j = some (kind, raw)) :
    ((⟨name, kind, raw⟩ : Property).valueIn metadata).fault? = none ∧
      Means metadata j ((⟨name, kind, raw⟩ : Property).valueIn metadata).render := by
  obtain ⟨hbool, hint, hdecimal, hstring⟩ := declared?_names
  cases j with
  | null => cases h
  | special n => exact absurd rfl (hfinite n)
  | bool b =>
    cases h
    rw [valueIn_of_declared? hbool]
    exact fits_bool name metadata b
  | int n =>
    cases h
    obtain ⟨hfits, hrender⟩ := fits_int name metadata n
    rw [valueIn_of_declared? hint]
    exact ⟨hfits, hrender.trans (toString_int n)⟩
  | decimal d =>
    cases h
    obtain ⟨hfits, hrender⟩ := fits_decimal name metadata hheld
    obtain ⟨m, hascii, hchars, hvalue⟩ := d.exists_numeral
    rw [valueIn_of_declared? hdecimal]
    refine ⟨hfits, m, hascii, hvalue, ?_⟩
    rw [hrender, Decimal.fixed, hchars, Numeral.text]
  | text t =>
    cases h
    rw [valueIn_of_declared? hstring]
    exact fits_string name metadata _
  | list items =>
    cases h
    rw [valueIn_of_declared? hstring]
    exact ⟨rfl, _, rfl⟩
  | object members =>
    cases h
    rw [valueIn_of_declared? hstring]
    exact ⟨rfl, _, rfl⟩

theorem propertyOfMember?_eq_none_iff {m : Letters × Json} :
    propertyOfMember? m = none ↔ isStated m.2 = false := by
  obtain ⟨name, j⟩ := m
  cases j <;> simp [propertyOfMember?, declaration?, isStated]

theorem exists_value_of_member (owner : Owner) (metadata : Bool) {m : Letters × Json}
    {p : Property} (hheld : m.2.Held) (hfinite : ∀ n, m.2 ≠ .special n)
    (h : propertyOfMember? m = some p) :
    ∃ v, valueOfProperty owner metadata p = .ok v ∧ v.name = m.1.string ∧
      Means metadata m.2 v.render := by
  obtain ⟨⟨kind, raw⟩, hdeclaration, rfl⟩ := Option.map_eq_some_iff.1 h
  obtain ⟨hfits, hmeans⟩ := means_of_declaration hheld hfinite hdeclaration
  exact ⟨_, valueOfProperty_eq_ok_iff.2 ⟨rfl, hfits⟩, rfl, hmeans⟩

/-- A number that is not finite is no decimal literal. -/
theorem valueOfProperty_special {owner : Owner} {name : Letters} {n : SpecialNumber} {p : Property}
    (h : propertyOfMember? (name, .special n) = some p) :
    valueOfProperty owner metadata p = .error (.property owner name.string
      (.decimal (.notFinite (Json.SpecialNumber.display n)) name.string)) := by
  have hnormal : normalizeDecimal (Json.SpecialNumber.display n) =
      .error (.notFinite (Json.SpecialNumber.display n)) := by
    cases n <;> rfl
  cases h
  rw [valueOfProperty, Property.kind?, declared?_names.2.2.1, Value.make, Value.fault?]
  dsimp only [Option.getD_some]
  rw [hnormal]
  rfl

end Member

/-! ## All members -/

theorem forall₂_propertyOfMember? (members : List (Letters × Json)) :
    List.Forall₂ (fun m p => propertyOfMember? m = some p)
      (members.filter fun m => isStated m.2) (members.filterMap propertyOfMember?) := by
  refine forall₂_filterMap (R := Eq) ?_ ?_ (List.forall₂_eq_eq_eq ▸ rfl)
  · rintro m _ rfl hstated
    cases hp : propertyOfMember? m with
    | none =>
      rw [propertyOfMember?_eq_none_iff.1 hp] at hstated
      cases hstated
    | some p => exact ⟨p, rfl, rfl⟩
  · rintro m _ rfl hstated
    exact propertyOfMember?_eq_none_iff.2 hstated

section Members

variable {owner : Owner} {metadata : Bool} {members : List (Letters × Json)}

/-- The configuration inside an object, and its members, come with the object. -/
theorem held_of_mem_configurationMembers (h : (Json.object members).Held) :
    ∀ m ∈ configurationMembers members, m.2.Held := by
  have hmembers := Json.held_object.1 h
  unfold configurationMembers
  split
  · split
    · exact Json.held_object.1 (hmembers _ List.mem_cons_self)
    · exact hmembers
  · exact hmembers

theorem exists_values (hheld : ∀ m ∈ members, m.2.Held)
    (hfinite : ∀ name n, (name, .special n) ∉ members) :
    ∃ vs, valuesOfProperties owner metadata (members.filterMap propertyOfMember?) = .ok vs ∧
      List.Forall₂ (fun m v => v.name = m.1.string ∧ Means metadata m.2 v.render)
        (members.filter fun m => isStated m.2) vs := by
  refine exists_mapM_eq_ok (forall₂_propertyOfMember? members) fun m hm p hp => ?_
  obtain ⟨hmem, -⟩ := List.mem_filter.1 hm
  refine exists_value_of_member _ _ (hheld m hmem) (fun n hn => hfinite m.1 n ?_) hp
  rwa [← hn]

/-- The fault is that of the first number that is not finite: no other member has one. -/
theorem exists_special_of_mem (hheld : ∀ m ∈ members, m.2.Held) {name : Letters}
    {n : SpecialNumber} (hmem : (name, .special n) ∈ members) :
    ∃ name n, (name, .special n) ∈ members ∧
      valuesOfProperties owner metadata (members.filterMap propertyOfMember?) =
        .error (.property owner name.string
          (.decimal (.notFinite (Json.SpecialNumber.display n)) name.string)) := by
  rcases mapM_ok_or_error (valueOfProperty owner metadata) (members.filterMap propertyOfMember?)
    with ⟨vs, hvs⟩ | ⟨p, hp, e, he, hall⟩
  · obtain ⟨v, -, hv⟩ := exists_right_of_mem (mapM_eq_ok_iff.1 hvs)
      (List.mem_filterMap.2 ⟨_, hmem, rfl⟩)
    rw [valueOfProperty_special rfl] at hv
    cases hv
  · obtain ⟨⟨name', j⟩, hm, hp⟩ := List.mem_filterMap.1 hp
    by_cases hspecial : ∃ n', j = .special n'
    · obtain ⟨n', rfl⟩ := hspecial
      rw [valueOfProperty_special hp] at he
      cases he
      exact ⟨name', n', hm, hall⟩
    · obtain ⟨v, hv, -⟩ := exists_value_of_member owner metadata (hheld _ hm)
        (not_exists.1 hspecial) hp
      rw [hv] at he
      cases he

end Members

/-- Configurations keep their meaning, member by member and in order, unless a member is a number
that is not finite; then they are refused. -/
theorem values_of_configuration (owner : Owner) (metadata : Bool)
    {members : List (Letters × Json)} (hheld : (Json.object members).Held) :
    ∃ ps, propertiesOf (.object members) = .ok ps ∧
      ((∀ name n, (name, .special n) ∉ configurationMembers members) →
        ∃ vs, valuesOfProperties owner metadata ps = .ok vs ∧
          List.Forall₂ (fun m v => v.name = m.1.string ∧ Means metadata m.2 v.render)
            (statedMembers members) vs) ∧
      ((∃ name n, (name, .special n) ∈ configurationMembers members) →
        ∃ name n, (name, .special n) ∈ configurationMembers members ∧
          valuesOfProperties owner metadata ps = .error (.property owner name.string
            (.decimal (.notFinite (Json.SpecialNumber.display n)) name.string))) := by
  have hmembers := held_of_mem_configurationMembers hheld
  refine ⟨_, rfl, fun hfinite => exists_values hmembers hfinite, ?_⟩
  rintro ⟨name, n, hmem⟩
  exact exists_special_of_mem hmembers hmem

/-- A nested configuration with an integer below zero, a decimal that is written with an exponent, a
null, and a text that looks like a number. -/
theorem values_of_nested_configuration :
    (Json.object [("properties", .object [("offset", .int (-60)), ("gain", .decimal ⟨true, 5, -9⟩),
        ("mode", .null), ("code", .text "0042")])]).Held ∧
      ∃ ps vs, propertiesOf (.object [("properties", .object [("offset", .int (-60)),
          ("gain", .decimal ⟨true, 5, -9⟩), ("mode", .null), ("code", .text "0042")])]) = .ok ps ∧
        valuesOfProperties (.link "l1") true ps = .ok vs ∧
        List.Forall₂ (fun (m : Letters × Json) v => v.name = m.1.string ∧ Means true m.2 v.render)
          [("offset", .int (-60)), ("gain", .decimal ⟨true, 5, -9⟩), ("code", .text "0042")]
          vs := by
  have hheld : (Json.object [("properties", .object [("offset", .int (-60)),
      ("gain", .decimal ⟨true, 5, -9⟩), ("mode", .null), ("code", .text "0042")])]).Held := by
    have hrange : Decimal.InRange ⟨true, 5, -9⟩ := by decide
    simp [Json.Held, hrange]
  obtain ⟨ps, hps, hvalues, -⟩ := values_of_configuration (.link "l1") true hheld
  obtain ⟨vs, hvs, hmeans⟩ := hvalues (by simp [configurationMembers])
  exact ⟨hheld, ps, vs, hps, hvs, hmeans⟩

end HomeCatalog.Database
