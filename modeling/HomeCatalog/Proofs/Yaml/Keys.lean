import HomeCatalog.Yaml.Basic

/-!
# Keys of mappings

No text is the key of two entries of a mapping, at any depth of mappings in mappings
(`Value.Distinct`). That is all that settings rely on in a reader (`Reader.Lawful`). Whether two
values are equal can be decided: `Value.same` compares them part by part, entries in their order.
-/

namespace HomeCatalog.Yaml

namespace Value

theorem isText_iff {s : Letters} {v : Value} : v.isText s = true ↔ v = .text s := by
  cases v <;> simp [isText]

/-! ## Distinct keys -/

/-- No text is the key of two entries. -/
def DistinctKeys (entries : List (Value × Value)) : Prop :=
  entries.Pairwise fun d e => ∀ s, d.1 = .text s → e.1 ≠ .text s

/-- Every mapping in the value has distinct keys. -/
inductive Distinct : Value → Prop
  | null : Distinct .null
  | truth (b : Bool) : Distinct (.truth b)
  | text (s : Letters) : Distinct (.text s)
  | other (type : String) : Distinct (.other type)
  | mapping {entries : List (Value × Value)} (hkeys : DistinctKeys entries)
    (h : ∀ e ∈ entries, Distinct e.2) : Distinct (.mapping entries)

theorem Distinct.entries {entries : List (Value × Value)} (h : Distinct (.mapping entries)) :
    DistinctKeys entries ∧ ∀ e ∈ entries, Distinct e.2 := by
  cases h with
  | mapping hkeys hentries => exact ⟨hkeys, hentries⟩

/-! ## Equal values -/

mutual

/-- Whether two values are equal. -/
def same : Value → Value → Bool
  | .null, .null => true
  | .truth b, .truth b' => b == b'
  | .text s, .text s' => s == s'
  | .other t, .other t' => t == t'
  | .mapping es, .mapping es' => sameEntries es es'
  | _, _ => false

/-- Whether two mappings have equal entries. -/
def sameEntries : List (Value × Value) → List (Value × Value) → Bool
  | [], [] => true
  | (k, v) :: es, (k', v') :: es' => k.same k' && v.same v' && sameEntries es es'
  | _, _ => false

end

mutual

theorem same_iff : (v v' : Value) → (v.same v' = true ↔ v = v')
  | .mapping es, v' => by
    cases v' with
    | mapping es' => simpa [same] using sameEntries_iff es es'
    | _ => simp [same]
  | .null, v' | .truth _, v' | .text _, v' | .other _, v' => by
    cases v' <;> simp [same]

theorem sameEntries_iff :
    (es es' : List (Value × Value)) → (sameEntries es es' = true ↔ es = es')
  | [], es' => by cases es' <;> simp [sameEntries]
  | (_, _) :: _, [] => by simp [sameEntries]
  | (k, v) :: es, (k', v') :: es' => by
    simp [sameEntries, same_iff k k', same_iff v v', sameEntries_iff es es', and_assoc]

end

instance : DecidableEq Value := fun v v' =>
  decidable_of_iff (v.same v' = true) (same_iff v v')

end Value

/-- What is relied on in a reader. -/
structure Reader.Lawful (read : Reader) : Prop where
  distinct {text : Letters} {v : Value} (h : read text = .ok v) : v.Distinct

end HomeCatalog.Yaml
