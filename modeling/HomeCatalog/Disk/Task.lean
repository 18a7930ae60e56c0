import HomeCatalog.Disk.Basic

/-!
# Tasks

A task asks a disk one request after another and ends with a value. `Task.run` carries it out on a
disk as a value; `run_bind` says that a task made of two runs them one after the other. The same
task can be carried out on the disk of a machine.
-/

namespace HomeCatalog

/-- A value, or a request and what to do with its answer. -/
inductive Task (α : Type) : Type
  | done (a : α)
  | ask (r : Request) (next : r.Answer → Task α)

namespace Task

variable {α β : Type}

/-- Go on with the value of a task. -/
def bind : Task α → (α → Task β) → Task β
  | .done a, f => f a
  | .ask r next, f => .ask r fun x => (next x).bind f

instance : Monad Task where
  pure := .done
  bind := Task.bind

/-- The task of one request. -/
def request (r : Request) : Task r.Answer :=
  .ask r .done

/-- Carry a task out: its value, and the disk afterwards. -/
def run : Task α → Disk → α × Disk
  | .done a, d => (a, d)
  | .ask r next, d => (next (d.answer r).1).run (d.answer r).2

@[simp] theorem run_pure (a : α) (d : Disk) : (pure a : Task α).run d = (a, d) := rfl

@[simp] theorem run_request (r : Request) (d : Disk) : (request r).run d = d.answer r := rfl

@[simp] theorem run_bind (t : Task α) (f : α → Task β) (d : Disk) :
    (t >>= f).run d = (f (t.run d).1).run (t.run d).2 := by
  change (t.bind f).run d = _
  induction t generalizing d with
  | done a => rfl
  | ask r next ih => exact ih _ _

/-- Go on with the value of a task that succeeds. -/
def andThen {ε : Type} (t : Task (Except ε α)) (f : α → Task (Except ε β)) : Task (Except ε β) := do
  match ← t with
  | .ok a => f a
  | .error e => return .error e

@[simp] theorem run_andThen {ε : Type} (t : Task (Except ε α)) (f : α → Task (Except ε β))
    (d : Disk) :
    (t.andThen f).run d =
      match (t.run d).1 with
      | .ok a => (f a).run (t.run d).2
      | .error e => (.error e, (t.run d).2) := by
  simp only [andThen, run_bind]
  split <;> simp_all

/-- The value of a task that does not fail with a fault of another kind. -/
def liftFault {ε δ : Type} (f : ε → δ) (t : Task (Except ε α)) : Task (Except δ α) := do
  return (← t).mapError f

/-- Whether something stands at a path. A path through a file or through nothing leads to nothing;
other refusals are passed on. -/
def entryExists (p : Path) : Task (Except SystemFault Bool) := do
  match ← request (.inspect p) with
  | .ok _ => return .ok true
  | .error e =>
    if e.cause = .noSuchEntry ∨ e.cause = .notDirectory then return .ok false else return .error e

/-- Whether a directory stands at a path. -/
def isDirectory (p : Path) : Task (Except SystemFault Bool) := do
  match ← request (.inspect p) with
  | .ok n => return .ok n.isDirectory
  | .error e =>
    if e.cause = .noSuchEntry ∨ e.cause = .notDirectory then return .ok false else return .error e

end Task

end HomeCatalog
