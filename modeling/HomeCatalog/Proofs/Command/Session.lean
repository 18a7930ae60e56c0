import HomeCatalog.Command.Run
import HomeCatalog.Proofs.Disk.Reading

/-!
# Sessions that succeed

A session that gives a value leads from one `Moment` of a run to another (`Session.Gives`). It is
taken apart along the session: a session made of two gives what the second gives after the first
(`gives_bind_iff`), and each kind of step has a lemma that says all that its success means. A step
that only reads leaves the moment as it is (`gives_reading_iff`).
-/

namespace HomeCatalog.Command

/-- Where a run stands: the lines said so far, and the disk. -/
@[ext] structure Moment where
  lines : List String
  disk : Disk

namespace Session

variable {α β ε : Type} {m m' : Moment}

/-- From the first moment on the session gives the value, and then it is the second moment. -/
def Gives (s : Session α) (m : Moment) (a : α) (m' : Moment) : Prop :=
  Task.run (StateT.run (ExceptT.run s) m.lines) m.disk = ((.ok a, m'.lines), m'.disk)

theorem run_eq_ok_iff {s : Session α} {d : Disk} {a : α} :
    (s.run d).1.1 = .ok a ↔ ∃ m, s.Gives ⟨[], d⟩ a m := by
  unfold run Gives
  obtain ⟨⟨x, lines⟩, d'⟩ := Task.run (StateT.run (ExceptT.run s) []) d
  constructor
  · rintro ⟨⟩
    exact ⟨⟨lines, d'⟩, rfl⟩
  · rintro ⟨m, hm⟩
    rw [hm]

/-! ## Sessions made of others -/

@[simp] theorem gives_pure_iff {a b : α} : (pure a : Session α).Gives m b m' ↔ b = a ∧ m' = m := by
  cases m
  cases m'
  constructor
  · rintro ⟨⟩
    exact ⟨rfl, rfl⟩
  · rintro ⟨rfl, ⟨⟩⟩
    rfl

@[simp] theorem not_gives_throw {f : Failure} {a : α} : ¬ (throw f : Session α).Gives m a m' := by
  rintro ⟨⟩

@[simp] theorem gives_bind_iff {s : Session α} {f : α → Session β} {b : β} :
    (s >>= f).Gives m b m' ↔ ∃ a m₁, s.Gives m a m₁ ∧ (f a).Gives m₁ b m' := by
  unfold Gives
  rw [ExceptT.run_bind, StateT.run_bind, Task.run_bind]
  obtain ⟨⟨x, lines⟩, d⟩ := Task.run (StateT.run (ExceptT.run s) m.lines) m.disk
  cases x with
  | error e =>
    constructor
    · rintro ⟨⟩
    · rintro ⟨a, m₁, ⟨⟩, -⟩
  | ok a =>
    constructor
    · intro h
      exact ⟨a, ⟨lines, d⟩, rfl, h⟩
    · rintro ⟨a', ⟨lines', d'⟩, ⟨⟩, h⟩
      exact h

/-! ## Steps -/

@[simp] theorem gives_say_iff {line : String} {u : Unit} :
    (say line).Gives m u m' ↔ m' = ⟨m.lines ++ [line], m.disk⟩ := by
  cases m'
  constructor
  · rintro ⟨⟩
    rfl
  · rintro ⟨⟩
    rfl

@[simp] theorem gives_sayIf_iff {wanted : Bool} {line : String} {u : Unit} :
    (sayIf wanted line).Gives m u m' ↔
      m' = ⟨m.lines ++ if wanted then [line] else [], m.disk⟩ := by
  cases wanted with
  | false => simp [sayIf]
  | true => simp [sayIf]

/-- One line is said for each of the items. -/
@[simp] theorem gives_forM_say_iff {line : α → String} {items : List α} {u : Unit} :
    (forM items fun a => say (line a)).Gives m u m' ↔
      m' = ⟨m.lines ++ items.map line, m.disk⟩ := by
  induction items generalizing m with
  | nil => simp
  | cons a items ih =>
    rw [List.forM_cons, gives_bind_iff]
    simp [ih]

theorem gives_carryOut_iff {failure : ε → Failure} {t : Task (Except ε α)} {a : α} :
    (carryOut failure t).Gives m a m' ↔
      t.run m.disk = (.ok a, m'.disk) ∧ m'.lines = m.lines := by
  rw [← Task.run_liftFault_eq_ok_iff (f := failure)]
  unfold Gives
  rw [carryOut, ExceptT.run_mk, StateT.run_lift, Task.run_bind, Task.run_pure]
  simp only [Prod.ext_iff]
  tauto

theorem gives_reading_iff {failure : ε → Failure} {t : Task (Except ε α)} (h : t.Reads) {a : α} :
    (carryOut failure t).Gives m a m' ↔ (t.run m.disk).1 = .ok a ∧ m' = m := by
  rw [gives_carryOut_iff, h.run_eq_iff, and_assoc, Moment.ext_iff]
  tauto

@[simp] theorem gives_accept_iff {failure : ε → Failure} {x : Except ε α} {a : α} :
    (accept failure x).Gives m a m' ↔ x = .ok a ∧ m' = m :=
  gives_reading_iff (Task.reads_pure x)

end Session

end HomeCatalog.Command
