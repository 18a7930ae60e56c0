import Mathlib.Data.List.Forall2

/-!
# Building lists with faults

A list of records is built one record after the other, and the first fault ends the building. A
built list is related to its records place by place (`mapM_eq_ok_iff`), and where there is none the
fault is that of a record (`mapM_ok_or_error`). Lists related place by place stay so when both are
thinned out by tests that agree (`forall₂_filterMap`, `mapM_filter_eq_ok`), and some of the records
make some of the list (`exists_mapM_of_sublist`). A walk from record to record that adds to what it
has comes to the same (`foldlM_eq_map_mapM`). Two lists of records whose outcomes agree place by
place come to outcomes that agree, faults included (`agree_mapM`).
-/

namespace HomeCatalog

universe u v

theorem bind_eq_ok_iff {ε α β : Type u} {x : Except ε α} {f : α → Except ε β} {b : β} :
    (x >>= f) = .ok b ↔ ∃ a, x = .ok a ∧ f a = .ok b := by
  cases x with
  | error e => simp [bind, Except.bind]
  | ok a => simp [bind, Except.bind]

@[simp] theorem mapError_eq_ok_iff {ε ε' α : Type u} {x : Except ε α} {f : ε → ε'} {a : α} :
    x.mapError f = .ok a ↔ x = .ok a := by
  cases x with
  | error e => simp [Except.mapError]
  | ok b => simp [Except.mapError]

theorem map_eq_ok_iff {ε : Type u} {α β : Type v} {x : Except ε α} {f : α → β} {b : β} :
    x.map f = .ok b ↔ ∃ a, x = .ok a ∧ f a = b := by
  cases x with
  | error e => simp [Except.map]
  | ok a => simp [Except.map]

theorem map_eq_error_iff {ε : Type u} {α β : Type v} {x : Except ε α} {f : α → β} {e : ε} :
    x.map f = .error e ↔ x = .error e := by
  cases x with
  | error e => simp [Except.map]
  | ok a => simp [Except.map]

theorem ite_error_eq_ok_iff {ε α : Type u} {b : Bool} {e : ε} {x y : α} :
    (if b then Except.error e else .ok x) = .ok y ↔ b = false ∧ x = y := by
  cases b <;> simp

theorem toOption_eq_some_iff {ε : Type u} {α : Type v} {x : Except ε α} {a : α} :
    x.toOption = some a ↔ x = .ok a := by
  cases x with
  | error e => simp [Except.toOption]
  | ok b => simp [Except.toOption]

section FailsWith

/-- There is no value but a fault of this kind. -/
def FailsWith {ε : Type u} {α : Type v} (P : ε → Prop) (x : Except ε α) : Prop :=
  ∃ e, x = .error e ∧ P e

/-- The failure is none of those that `report` makes. -/
def Unreported {φ : Type v} {ε : Type u} (report : φ → ε) (e : ε) : Prop :=
  ∀ f, e ≠ report f

/-- There is a value, or a failure that `report` makes. -/
def Reported {φ : Type*} {ε : Type*} {α : Type*} (report : φ → ε) (x : Except ε α) : Prop :=
  (∃ a, x = .ok a) ∨ ∃ f, x = .error (report f)

variable {ε ε' : Type u} {P : ε → Prop} {e : ε}

@[simp] theorem failsWith_error_iff {α : Type v} :
    FailsWith P (.error e : Except ε α) ↔ P e := by
  simp [FailsWith]

@[simp] theorem not_failsWith_ok {α : Type v} {a : α} : ¬FailsWith P (.ok a) := by
  simp [FailsWith]

@[simp] theorem not_failsWith_pure {α : Type u} {a : α} : ¬FailsWith P (pure a) :=
  not_failsWith_ok

@[simp] theorem not_unreported {φ : Type v} {report : φ → ε} {f : φ} :
    ¬Unreported report (report f) :=
  fun h => h f rfl

theorem reported_iff_not_failsWith {φ : Type v} {α : Type*} {report : φ → ε} {x : Except ε α} :
    Reported report x ↔ ¬FailsWith (Unreported report) x := by
  cases x <;> simp [Reported, Unreported]

/-- The first part fails, or it has a value and the second part fails. -/
theorem failsWith_bind_iff {α β : Type u} {x : Except ε α} {f : α → Except ε β} :
    FailsWith P (x >>= f) ↔ FailsWith P x ∨ ∃ a, x = .ok a ∧ FailsWith P (f a) := by
  cases x with
  | error e => simp [bind, Except.bind]
  | ok a => simp [bind, Except.bind]

theorem failsWith_mapError_iff {α : Type v} {f : ε' → ε} {x : Except ε' α} :
    FailsWith P (x.mapError f) ↔ FailsWith (fun e => P (f e)) x := by
  cases x <;> simp [Except.mapError]

end FailsWith

section Related

variable {α : Type u} {β : Type v} {γ : Type*} {R : α → β → Prop} {xs : List α} {ys : List β}

theorem exists_right_of_mem (h : List.Forall₂ R xs ys) {x : α} (hx : x ∈ xs) :
    ∃ y ∈ ys, R x y := by
  induction h with
  | nil => cases hx
  | cons hr _ ih =>
    rcases List.mem_cons.1 hx with rfl | hx
    · exact ⟨_, List.mem_cons_self, hr⟩
    · obtain ⟨y, hy, hr'⟩ := ih hx
      exact ⟨y, List.mem_cons_of_mem _ hy, hr'⟩

theorem exists_left_of_mem (h : List.Forall₂ R xs ys) {y : β} (hy : y ∈ ys) :
    ∃ x ∈ xs, R x y :=
  exists_right_of_mem (R := fun y x => R x y) h.flip hy

theorem exists_forall₂ (h : ∀ x ∈ xs, ∃ y, R x y) : ∃ ys, List.Forall₂ R xs ys := by
  induction xs with
  | nil => exact ⟨[], .nil⟩
  | cons x xs ih =>
    obtain ⟨y, hy⟩ := h x List.mem_cons_self
    obtain ⟨ys, hys⟩ := ih fun x hx => h x (List.mem_cons_of_mem _ hx)
    exact ⟨y :: ys, .cons hy hys⟩

theorem forall₂_comp {S : β → γ → Prop} {zs : List γ} (hxy : List.Forall₂ R xs ys)
    (hyz : List.Forall₂ S ys zs) : List.Forall₂ (fun x z => ∃ y, R x y ∧ S y z) xs zs := by
  induction hxy generalizing zs with
  | nil =>
    cases hyz
    exact .nil
  | cons hr _ ih =>
    obtain _ | ⟨hs, hyz⟩ := hyz
    exact .cons ⟨_, hr, hs⟩ (ih hyz)

/-- What lists of pairs with the same keys hold under a key is related, or there is none in both. -/
theorem lookup_related {κ : Type*} [BEq κ] [LawfulBEq κ] {S : κ → α → β → Prop}
    {ps : List (κ × α)} {qs : List (κ × β)}
    (h : List.Forall₂ (fun p q => p.1 = q.1 ∧ S p.1 p.2 q.2) ps qs) (k : κ) :
    (ps.lookup k = none ∧ qs.lookup k = none) ∨
      ∃ a b, ps.lookup k = some a ∧ qs.lookup k = some b ∧ S k a b := by
  induction h with
  | nil => exact .inl ⟨rfl, rfl⟩
  | @cons p q _ _ hpq _ ih =>
    obtain ⟨k', a⟩ := p
    obtain ⟨_, b⟩ := q
    obtain ⟨rfl, hs⟩ := hpq
    rw [List.lookup_cons, List.lookup_cons]
    by_cases hk : k = k'
    · subst hk
      exact .inr ⟨a, b, by simp, by simp, hs⟩
    · simpa [beq_eq_false_iff_ne.2 hk] using ih

/-- A test on the left and a partial map on the right that keep the same places. -/
theorem forall₂_filterMap {S : α → γ → Prop} {p : α → Bool} {f : β → Option γ}
    (hkeep : ∀ a b, R a b → p a = true → ∃ c, f b = some c ∧ S a c)
    (hdrop : ∀ a b, R a b → p a = false → f b = none) (h : List.Forall₂ R xs ys) :
    List.Forall₂ S (xs.filter p) (ys.filterMap f) := by
  induction h with
  | nil => exact .nil
  | @cons a b _ _ hr _ ih =>
    cases hp : p a with
    | false =>
      rw [List.filter_cons_of_neg (by simp [hp]), List.filterMap_cons, hdrop a b hr hp]
      exact ih
    | true =>
      obtain ⟨c, hc, hs⟩ := hkeep a b hr hp
      rw [List.filter_cons_of_pos hp, List.filterMap_cons, hc]
      exact .cons hs ih

end Related

section MapM

variable {ε α β : Type u} {f : α → Except ε β}

theorem mapM_eq_ok_iff {xs : List α} {ys : List β} :
    xs.mapM f = .ok ys ↔ List.Forall₂ (fun x y => f x = .ok y) xs ys := by
  induction xs generalizing ys with
  | nil => cases ys <;> simp [pure, Except.pure]
  | cons x xs ih =>
    rw [List.mapM_cons, bind_eq_ok_iff]
    constructor
    · rintro ⟨y, hy, h⟩
      obtain ⟨zs, hzs, h⟩ := bind_eq_ok_iff.1 h
      cases h
      exact .cons hy (ih.1 hzs)
    · rintro (_ | ⟨hy, hys⟩)
      exact ⟨_, hy, bind_eq_ok_iff.2 ⟨_, ih.2 hys, rfl⟩⟩

/-- Records and what they make can be thinned out by tests that agree. -/
theorem mapM_filter_eq_ok {p : α → Bool} {q : β → Bool} {xs : List α} {ys : List β}
    (hpq : ∀ x y, f x = .ok y → p x = q y) (h : xs.mapM f = .ok ys) :
    (xs.filter p).mapM f = .ok (ys.filter q) :=
  mapM_eq_ok_iff.2 (List.rel_filter (fun x y hy => by simp only [hpq x y hy]) (mapM_eq_ok_iff.1 h))

/-- Fewer records are built where all are, and make some of what all make. -/
theorem exists_mapM_of_sublist {zs xs : List α} {ys : List β} (hsub : zs.Sublist xs)
    (h : xs.mapM f = .ok ys) : ∃ ws, zs.mapM f = .ok ws ∧ ws.Sublist ys := by
  simp only [mapM_eq_ok_iff] at h ⊢
  induction hsub generalizing ys with
  | slnil => exact ⟨ys, h, .refl _⟩
  | cons x _ ih =>
    obtain _ | ⟨-, hys⟩ := h
    obtain ⟨ws, hws, hwsub⟩ := ih hys
    exact ⟨ws, hws, hwsub.cons _⟩
  | cons_cons x _ ih =>
    obtain _ | ⟨hy, hys⟩ := h
    obtain ⟨ws, hws, hwsub⟩ := ih hys
    exact ⟨_ :: ws, .cons hy hws, hwsub.cons_cons _⟩

/-- A list related to others is built where each of its records is. -/
theorem exists_mapM_eq_ok {γ : Type v} {R : γ → α → Prop} {S : γ → β → Prop} {zs : List γ}
    {xs : List α} (h : List.Forall₂ R zs xs)
    (hbuild : ∀ z ∈ zs, ∀ x, R z x → ∃ y, f x = .ok y ∧ S z y) :
    ∃ ys, xs.mapM f = .ok ys ∧ List.Forall₂ S zs ys := by
  induction h with
  | nil => exact ⟨[], rfl, .nil⟩
  | @cons z x zs xs hr _ ih =>
    obtain ⟨hz, hzs⟩ := List.forall_mem_cons.1 hbuild
    obtain ⟨y, hy, hs⟩ := hz x hr
    obtain ⟨ys, hys, hss⟩ := ih hzs
    exact ⟨y :: ys, mapM_eq_ok_iff.2 (.cons hy (mapM_eq_ok_iff.1 hys)), .cons hs hss⟩

/-- A list is built, or the fault is that of one of its records. -/
theorem mapM_ok_or_error (f : α → Except ε β) (xs : List α) :
    (∃ ys, xs.mapM f = .ok ys) ∨ ∃ x ∈ xs, ∃ e, f x = .error e ∧ xs.mapM f = .error e := by
  induction xs with
  | nil => exact .inl ⟨[], rfl⟩
  | cons x xs ih =>
    rw [List.mapM_cons]
    cases hx : f x with
    | error e => exact .inr ⟨x, List.mem_cons_self, e, hx, rfl⟩
    | ok y =>
      rcases ih with ⟨ys, hys⟩ | ⟨x', hx', e, he, hxs⟩
      · exact .inl ⟨y :: ys, by rw [hys]; rfl⟩
      · exact .inr ⟨x', List.mem_cons_of_mem _ hx', e, he, by rw [hxs]; rfl⟩

/-- A list that cannot be built fails as one of its records does. -/
theorem failsWith_of_mapM {P : ε → Prop} {xs : List α} (h : FailsWith P (xs.mapM f)) :
    ∃ x ∈ xs, FailsWith P (f x) := by
  obtain ⟨e, he, hP⟩ := h
  obtain ⟨ys, hys⟩ | ⟨x, hx, e', hfail, hxs⟩ := mapM_ok_or_error f xs
  · rw [hys] at he
    cases he
  · obtain rfl : e' = e := Except.error.inj (hxs.symm.trans he)
    exact ⟨x, hx, e', hfail, hP⟩

/-- A walk that adds one built value at each record that counts, and goes past the others, is the
building of those that count. The state is given by the records so far and what they have made. -/
theorem foldlM_eq_map_mapM {σ : Type u} {p : α → Bool} {step : σ → α → Except ε σ}
    (state : List α → List β → σ) (hskip : ∀ s x, p x = false → step s x = .ok s)
    (hstep : ∀ seen ys x, p x = true →
      step (state seen ys) x = (f x).map fun y => state (seen ++ [x]) (ys ++ [y]))
    (seen : List α) (ys : List β) (xs : List α) :
    xs.foldlM step (state seen ys) =
      ((xs.filter p).mapM f).map fun zs => state (seen ++ xs.filter p) (ys ++ zs) := by
  induction xs generalizing seen ys with
  | nil =>
    rw [List.foldlM_nil, List.filter_nil, List.append_nil]
    exact congrArg (fun zs => Except.ok (state seen zs)) (List.append_nil ys).symm
  | cons x xs ih =>
    rw [List.foldlM_cons]
    cases hp : p x with
    | false =>
      rw [hskip _ _ hp, List.filter_cons_of_neg (by simp [hp])]
      exact ih seen ys
    | true =>
      rw [hstep _ _ _ hp, List.filter_cons_of_pos hp, List.mapM_cons]
      cases f x with
      | error e => rfl
      | ok y =>
        refine (ih _ _).trans ?_
        cases (xs.filter p).mapM f with
        | error e => rfl
        | ok zs =>
          simp only [List.append_assoc]
          rfl

end MapM

section Agree

variable {ε : Type*} {α : Type u} {β : Type v} {γ δ : Type*}

/-- Two outcomes are related values, or one and the same fault. -/
inductive Agree (S : α → β → Prop) : Except ε α → Except ε β → Prop
  | error (e : ε) : Agree S (.error e) (.error e)
  | ok {a : α} {b : β} : S a b → Agree S (.ok a) (.ok b)

theorem agree_refl {S : α → α → Prop} (h : ∀ a, S a a) (x : Except ε α) : Agree S x x := by
  cases x with
  | error e => exact .error e
  | ok a => exact .ok (h a)

theorem Agree.map {α' β' : Type*} {S : α → β → Prop} {T : α' → β' → Prop} {f : α → α'}
    {g : β → β'} {x : Except ε α} {y : Except ε β} (h : Agree S x y)
    (hfg : ∀ a b, S a b → T (f a) (g b)) : Agree T (x.map f) (y.map g) := by
  cases h with
  | error e => exact .error e
  | ok hs => exact .ok (hfg _ _ hs)

theorem Agree.bind {α' β' : Type*} {S : α → β → Prop} {T : α' → β' → Prop}
    {f : α → Except ε α'} {g : β → Except ε β'} {x : Except ε α} {y : Except ε β}
    (h : Agree S x y) (hfg : ∀ a b, S a b → Agree T (f a) (g b)) :
    Agree T (x.bind f) (y.bind g) := by
  cases h with
  | error e => exact .error e
  | ok hs => exact hfg _ _ hs

theorem agree_mapM {S : α → β → Prop} {f : γ → Except ε α} {g : δ → Except ε β} {xs : List γ}
    {ys : List δ} (h : List.Forall₂ (fun x y => Agree S (f x) (g y)) xs ys) :
    Agree (List.Forall₂ S) (xs.mapM f) (ys.mapM g) := by
  induction h with
  | nil => exact .ok .nil
  | @cons x y xs ys hxy _ ih =>
    rw [List.mapM_cons, List.mapM_cons]
    generalize f x = a, g y = b at hxy
    cases hxy with
    | error e => exact .error e
    | ok hs =>
      generalize xs.mapM f = as, ys.mapM g = bs at ih
      cases ih with
      | error e => exact .error e
      | ok hss => exact .ok (.cons hs hss)

theorem mapM_congr_of_forall₂ {f : γ → Except ε α} {g : δ → Except ε α} {xs : List γ}
    {ys : List δ} (h : List.Forall₂ (fun x y => f x = g y) xs ys) : xs.mapM f = ys.mapM g := by
  induction h with
  | nil => rfl
  | cons hxy _ ih => rw [List.mapM_cons, List.mapM_cons, hxy, ih]

end Agree

end HomeCatalog
