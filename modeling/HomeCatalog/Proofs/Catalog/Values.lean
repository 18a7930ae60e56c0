import HomeCatalog.Catalog.Parts
import HomeCatalog.Proofs.Traversal

/-!
# Values of properties

A property becomes a value of the same name and text. Its kind is the declared one, or else the one
inferred from the text, and its mode is that of the list it stands in. A list of properties has
values exactly if no text is at odds with its kind (`valueOfProperty_eq_ok_iff`).
-/

namespace HomeCatalog

/-- The value of a property before its text is checked. -/
def Property.valueIn (metadata : Bool) (p : Property) : Value where
  name := p.name
  raw := p.raw
  kind := p.kind?.getD (.infer p.raw)
  metadata := metadata

theorem Value.make_eq_ok_iff {name raw : String} {kind : Option ValueKind} {metadata : Bool}
    {v : Value} :
    Value.make name raw kind metadata = .ok v ↔
      v = { name, raw, kind := kind.getD (.infer raw), metadata } ∧ v.fault? = none := by
  unfold Value.make
  dsimp only
  split
  · next hf =>
    constructor
    · rintro ⟨⟩
      exact ⟨rfl, hf⟩
    · rintro ⟨rfl, -⟩
      rfl
  · next e hf =>
    constructor
    · rintro ⟨⟩
    · rintro ⟨rfl, hn⟩
      rw [hn] at hf
      cases hf

theorem valueOfProperty_eq_ok_iff {owner : Owner} {metadata : Bool} {p : Property} {v : Value} :
    valueOfProperty owner metadata p = .ok v ↔
      v = p.valueIn metadata ∧ (p.valueIn metadata).fault? = none := by
  rw [valueOfProperty, mapError_eq_ok_iff, Value.make_eq_ok_iff]
  constructor
  · rintro ⟨rfl, hf⟩
    exact ⟨rfl, hf⟩
  · rintro ⟨rfl, hf⟩
    exact ⟨rfl, hf⟩

theorem metadata_of_valuesOfProperties {owner : Owner} {metadata : Bool} {ps : List Property}
    {vs : ValueList} (h : valuesOfProperties owner metadata ps = .ok vs) :
    ∀ v ∈ vs, v.metadata = metadata := by
  intro v hv
  obtain ⟨p, -, hp⟩ := exists_left_of_mem (mapM_eq_ok_iff.1 h) hv
  obtain ⟨rfl, -⟩ := valueOfProperty_eq_ok_iff.1 hp
  rfl

end HomeCatalog
