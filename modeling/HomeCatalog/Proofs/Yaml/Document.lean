import HomeCatalog.Proofs.Traversal
import HomeCatalog.Proofs.Yaml.Keys
import HomeCatalog.Yaml.Document.Value

/-!
# The reader that the program comes with

No text is the key of two entries of a mapping that was read (`Yaml.lawful_read`): an entry whose
key is there already takes its place. The induction is on the fuel of `Node.value`.
-/

namespace HomeCatalog.Yaml

/-! ## Outcomes with ranks -/

namespace Ranked

variable {α β : Type} {x : Ranked α} {y : Ranked β}

theorem both_eq_ok_iff {p : α × β} : x.both y = .ok p ↔ x = .ok p.1 ∧ y = .ok p.2 := by
  obtain ⟨a, b⟩ := p
  cases x <;> cases y <;> simp [both]

theorem all_eq_ok_iff {xs : List (Ranked α)} {as : List α} :
    Ranked.all xs = .ok as ↔ List.Forall₂ (fun x a => x = .ok a) xs as := by
  induction xs generalizing as with
  | nil => cases as <;> simp [Ranked.all]
  | cons x xs ih =>
    rw [Ranked.all, map_eq_ok_iff]
    constructor
    · rintro ⟨⟨a, as'⟩, hboth, rfl⟩
      obtain ⟨ha, has⟩ := both_eq_ok_iff.1 hboth
      exact .cons ha (ih.1 has)
    · rintro (_ | ⟨ha, has⟩)
      exact ⟨(_, _), both_eq_ok_iff.2 ⟨ha, ih.2 has⟩, rfl⟩

theorem atRank_eq_ok_iff {rank : Nat} {x : Except Fault α} {a : α} :
    atRank rank x = .ok a ↔ x = .ok a :=
  mapError_eq_ok_iff

/-- What is made of some parts holds what each part makes. -/
theorem forall_of_all_map {γ : Type} {f : γ → Ranked α} {xs : List γ} {as : List α} {P : α → Prop}
    (h : Ranked.all (xs.map f) = .ok as) (hf : ∀ x a, f x = .ok a → P a) : ∀ a ∈ as, P a := by
  intro a ha
  obtain ⟨_, hx, rfl⟩ := exists_left_of_mem (all_eq_ok_iff.1 h) ha
  obtain ⟨x, -, hx⟩ := List.mem_map.1 hx
  exact hf x a hx

end Ranked

namespace Value

/-! ## Putting entries in -/

section PutEntry

variable {entries : List (Value × Value)} {s : Letters} {key value : Value}

theorem mem_putText {e : Value × Value} (h : e ∈ putText s value entries) :
    (e.1 = .text s ∨ ∃ d ∈ entries, d.1 = e.1) ∧ (e.2 = value ∨ e ∈ entries) := by
  induction entries with
  | nil =>
    obtain rfl := List.mem_singleton.1 h
    exact ⟨.inl rfl, .inl rfl⟩
  | cons first rest ih =>
    obtain ⟨k, v⟩ := first
    rw [putText] at h
    split at h
    · obtain rfl | hrest := List.mem_cons.1 h
      · exact ⟨.inr ⟨(k, v), List.mem_cons_self, rfl⟩, .inl rfl⟩
      · have he := List.mem_cons_of_mem (k, v) hrest
        exact ⟨.inr ⟨e, he, rfl⟩, .inr he⟩
    · obtain rfl | hrest := List.mem_cons.1 h
      · exact ⟨.inr ⟨_, List.mem_cons_self, rfl⟩, .inr List.mem_cons_self⟩
      · obtain ⟨hkey, hvalue⟩ := ih hrest
        exact ⟨hkey.imp_right fun ⟨d, hd, heq⟩ => ⟨d, List.mem_cons_of_mem _ hd, heq⟩,
          hvalue.imp_right (List.mem_cons_of_mem _)⟩

theorem distinctKeys_putText (h : DistinctKeys entries) :
    DistinctKeys (putText s value entries) := by
  induction entries with
  | nil => exact List.pairwise_singleton _ _
  | cons first rest ih =>
    obtain ⟨k, v⟩ := first
    obtain ⟨hfirst, hrest⟩ := List.pairwise_cons.1 h
    rw [putText]
    split
    · exact List.pairwise_cons.2 ⟨hfirst, hrest⟩
    · next hne =>
      refine List.pairwise_cons.2 ⟨fun e he t hk => ?_, ih hrest⟩
      obtain hkey | ⟨d, hd, hkey⟩ := (mem_putText he).1
      · rw [hkey]
        rintro ⟨⟩
        exact hne (isText_iff.2 hk)
      · rw [← hkey]
        exact hfirst d hd t hk

theorem distinct_putEntry (h : Distinct (.mapping entries)) (hvalue : Distinct value) :
    Distinct (.mapping (putEntry entries key value)) := by
  obtain ⟨hkeys, hentries⟩ := h.entries
  unfold putEntry
  split
  · refine .mapping (distinctKeys_putText hkeys) fun e he => ?_
    obtain heq | hold := (mem_putText he).2
    · rwa [heq]
    · exact hentries e hold
  · next hother =>
    refine .mapping (List.pairwise_append.2 ⟨hkeys, List.pairwise_singleton _ _, ?_⟩) ?_
    · intro d _ e he t _
      obtain rfl := List.mem_singleton.1 he
      exact hother t
    · exact List.forall_mem_append.2 ⟨hentries, List.forall_mem_singleton.2 hvalue⟩

end PutEntry

theorem distinct_emptyMapping : Distinct (.mapping []) :=
  .mapping .nil (List.forall_mem_nil _)

end Value

open HomeCatalog.Yaml.Value (Distinct)

/-! ## Values of nodes -/

theorem distinct_of_scalarValue {tag : Tag} {s : Letters} {v : Value}
    (h : scalarValue tag s = .ok v) : v.Distinct := by
  unfold scalarValue at h
  dsimp only at h
  split at h
  · cases h
    exact .null
  · split at h
    all_goals
      cases h
      try exact .truth _
  · obtain ⟨_, -, rfl⟩ := map_eq_ok_iff.1 h
    exact .other _
  · obtain ⟨_, -, rfl⟩ := map_eq_ok_iff.1 h
    exact .other _
  · split at h
    · cases h
      exact .other _
    · cases h
  · obtain ⟨_, -, rfl⟩ := map_eq_ok_iff.1 h
    exact .other _
  · cases h
    exact .text _
  · cases h

namespace Node

/-- The entries are put in one after the other. -/
theorem distinct_mappingOf {entries : List (Value × Value)} (h : ∀ e ∈ entries, Distinct e.2) :
    Distinct (mappingOf entries) := by
  have hfold : ∀ before, Distinct (.mapping before) → Distinct (.mapping (entries.foldl
      (fun all e => Value.putEntry all e.1 e.2) before)) := by
    induction entries with
    | nil => exact fun before hbefore => hbefore
    | cons e rest ih =>
      obtain ⟨he, hrest⟩ := List.forall_mem_cons.1 h
      exact fun before hbefore => ih hrest _ (Value.distinct_putEntry hbefore he)
  exact hfold [] Value.distinct_emptyMapping

theorem distinct_of_entryValues {valueOf : Node → Ranked Value}
    (hvalueOf : ∀ n v, valueOf n = .ok v → Distinct v) {fuel rank : Nat}
    {entries : List (Node × Node)} {es : List (Value × Value)}
    (h : entryValues valueOf fuel rank entries = .ok es) : ∀ e ∈ es, Distinct e.2 := by
  unfold entryValues at h
  split at h
  · cases h
  · refine Ranked.forall_of_all_map h fun e p hp => ?_
    unfold entryValue at hp
    split at hp
    · cases hp
    · exact hvalueOf e.2 p.2 (Ranked.both_eq_ok_iff.1 hp).2

theorem distinct_of_value {fuel rank : Nat} {n : Node} {v : Value}
    (h : n.value fuel rank = .ok v) : Distinct v := by
  induction fuel generalizing rank n v with
  | zero => cases h
  | succ fuel ih =>
    unfold Node.value at h
    dsimp only at h
    split at h
    · cases h
      exact Value.distinct_emptyMapping
    · split at h
      any_goals cases h
      exact distinct_of_scalarValue (Ranked.atRank_eq_ok_iff.1 h)
    · split at h
      · obtain ⟨_, -, rfl⟩ := map_eq_ok_iff.1 h
        exact .other _
      · obtain ⟨_, -, rfl⟩ := map_eq_ok_iff.1 h
        exact .other _
      · obtain ⟨_, -, rfl⟩ := map_eq_ok_iff.1 h
        exact .other _
      all_goals cases h
    · split at h
      · obtain ⟨es, hes, rfl⟩ := map_eq_ok_iff.1 h
        exact distinct_mappingOf (distinct_of_entryValues (fun _ _ hw => ih hw) hes)
      · obtain ⟨_, -, rfl⟩ := map_eq_ok_iff.1 h
        exact .other _
      · cases h
      · cases h
      · cases h
      · obtain ⟨_, -, hs⟩ := bind_eq_ok_iff.1 (Ranked.atRank_eq_ok_iff.1 h)
        cases hs
      · obtain ⟨_, -, hs⟩ := bind_eq_ok_iff.1 (Ranked.atRank_eq_ok_iff.1 h)
        exact distinct_of_scalarValue hs

end Node

theorem lawful_read : Reader.Lawful read where
  distinct h := by
    unfold read at h
    split at h
    · cases h
    · split at h
      · cases h
      · cases h
        exact .null
      · split at h
        · next w hvalue =>
          cases h
          exact Node.distinct_of_value hvalue
        · cases h

end HomeCatalog.Yaml
