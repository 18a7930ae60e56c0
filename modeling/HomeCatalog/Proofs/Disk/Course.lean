import HomeCatalog.Disk.Task
import HomeCatalog.Proofs.Disk.Tree
import HomeCatalog.Proofs.Traversal

/-!
# Tasks among refusals

What a task does depends on the disk and on the answers that it gets, and a request may be refused
at any time, whether or not the same one was before: `Disk.MayAnswer` says which answers there are.
`Task.Ensures` says what holds at the end of a task whatever the answers are, and is taken apart
along the task (`ensures_bind`). A run on a disk is one of these courses (`Ensures.run`).

What a request can do is said once for each kind of request (`MayAnswer.makeDirectory` and so on).
-/

namespace HomeCatalog

namespace Disk

/-- The disk at a moment: what it refuses just then, and the ending of a temporary file's name. -/
def among (d : Disk) (refuses : Request → Option Refusal) (ending : String) : Disk :=
  { d with refuses, temporaryEnding := ending }

/-- The disk with what another holds; the moment does not last. -/
def after (d e : Disk) : Disk :=
  { d with tree := e.tree, withheld := e.withheld }

theorem after_answer (d : Disk) (r : Request) : d.after (d.answer r).2 = (d.answer r).2 := by
  have hsettle : ∀ result, d.after (d.settle r result).2 = (d.settle r result).2 := by
    rintro (cause | tree) <;> rfl
  have hreport : ∀ {α : Type} (result : Except Refusal α),
      d.after (d.report r result).2 = (d.report r result).2 := by
    rintro α (cause | a) <;> rfl
  cases r with
  | inspect p => exact hreport _
  | read p => exact hreport _
  | makeDirectory p => exact hsettle _
  | makeTemporary directory stem =>
    simp only [answer]
    split <;> rfl
  | write p bytes => exact hsettle _
  | setMode p mode => exact hsettle _
  | replace p target => exact hsettle _
  | remove p => exact hsettle _
  | setWithheld bits => rfl
  | workingDirectory => rfl

/-- The answers that a request may get, and the disk afterwards. -/
inductive MayAnswer (d : Disk) : (r : Request) → r.Answer → Disk → Prop
  /-- Any request but a removal may be refused for any cause, and any ending be given to a temporary
  name. A look at a path may be refused too, but not with the words that nothing is there. -/
  | answered (r : Request) (refuses : Request → Option Refusal) (ending : String)
      (hseen : ∀ p, refuses (.inspect p) ≠ some .noSuchEntry) (hending : ending ≠ "") :
      MayAnswer d r ((d.among refuses ending).answer r).1
        (d.after ((d.among refuses ending).answer r).2)
  /-- A write may fail halfway, and leave anything in the file. -/
  | torn (p : Path) (bytes part : List UInt8) (cause : Refusal) (tree : FileTree)
      (h : d.write p part = .ok tree) :
      MayAnswer d (.write p bytes) (.error (d.fault (.write p bytes) cause)) { d with tree }

end Disk

namespace Task

variable {α β ε δ : Type} {d : Disk}

/-- Whatever answers its requests get, the task ends with a value and a disk that are in the
relation. -/
def Ensures : Task α → Disk → (α → Disk → Prop) → Prop
  | .done a, d, post => post a d
  | .ask r next, d, post => ∀ x d', d.MayAnswer r x d' → (next x).Ensures d' post

@[simp] theorem ensures_request {r : Request} {post : r.Answer → Disk → Prop} :
    (request r).Ensures d post ↔ ∀ x d', d.MayAnswer r x d' → post x d' :=
  Iff.rfl

@[simp] theorem ensures_bind {t : Task α} {f : α → Task β} {post : β → Disk → Prop} :
    (t >>= f).Ensures d post ↔ t.Ensures d fun a d' => (f a).Ensures d' post := by
  change (t.bind f).Ensures d post ↔ _
  induction t generalizing d with
  | done a => exact Iff.rfl
  | ask r next ih => exact forall₃_congr fun x d' _ => ih x

theorem Ensures.mono {t : Task α} {post post' : α → Disk → Prop} (h : t.Ensures d post)
    (hpost : ∀ a d', post a d' → post' a d') : t.Ensures d post' := by
  induction t generalizing d with
  | done a => exact hpost a d h
  | ask r next ih => exact fun x d' hx => ih x (h x d' hx)

theorem Ensures.andThen {t : Task (Except ε α)} {f : α → Task (Except ε β)}
    {post : Except ε α → Disk → Prop} {post' : Except ε β → Disk → Prop} (h : t.Ensures d post)
    (herror : ∀ e d', post (.error e) d' → post' (.error e) d')
    (hok : ∀ a d', post (.ok a) d' → (f a).Ensures d' post') : (t.andThen f).Ensures d post' := by
  rw [Task.andThen, ensures_bind]
  refine h.mono fun x d' hx => ?_
  cases x with
  | error e => exact herror e d' hx
  | ok a => exact hok a d' hx

/-- A run is one of the courses that a task can take. -/
theorem Ensures.run {t : Task α} {post : α → Disk → Prop} (h : t.Ensures d post)
    (hseen : ∀ p, d.refuses (.inspect p) ≠ some .noSuchEntry) (hending : d.temporaryEnding ≠ "") :
    post (t.run d).1 (t.run d).2 := by
  induction t generalizing d with
  | done a => exact h
  | ask r next ih =>
    have hanswer : d.MayAnswer r (d.answer r).1 (d.answer r).2 := by
      rw [← d.after_answer r]
      exact .answered r d.refuses d.temporaryEnding hseen hending
    refine ih _ (h _ _ hanswer) ?_ ?_
    · rw [← d.after_answer r]
      exact hseen
    · rw [← d.after_answer r]
      exact hending

theorem ensures_liftFault {t : Task (Except ε α)} {f : ε → δ} {post : Except δ α → Disk → Prop} :
    (t.liftFault f).Ensures d post ↔ t.Ensures d fun x d' => post (x.mapError f) d' := by
  rw [liftFault, ensures_bind]
  exact Iff.rfl

end Task

namespace Disk

variable {d d' : Disk}

/-! ## What a request can do -/

theorem unlessRefused_eq_ok {α : Type} {r : Request} {result : Except Refusal α} {a : α}
    (h : d.unlessRefused r result = .ok a) : result = .ok a := by
  unfold unlessRefused at h
  split at h
  · cases h
  · exact h

theorem unlessRefused_eq_error {α : Type} {r : Request} {result : Except Refusal α}
    {cause : Refusal} (h : d.unlessRefused r result = .error cause) :
    d.refuses r = some cause ∨ result = .error cause := by
  unfold unlessRefused at h
  split at h
  · next hrefuses =>
    cases h
    exact .inl hrefuses
  · exact .inr h

/-- A request that changes the tree does all of it or nothing. -/
theorem settle_cases (refuses : Request → Option Refusal) (ending : String) (r : Request)
    (result : Except Refusal FileTree) :
    (∃ f, ((d.among refuses ending).settle r
        ((d.among refuses ending).unlessRefused r result)).1 = .error f ∧
      d.after ((d.among refuses ending).settle r
        ((d.among refuses ending).unlessRefused r result)).2 = d) ∨
    ∃ tree, result = .ok tree ∧
      ((d.among refuses ending).settle r
        ((d.among refuses ending).unlessRefused r result)).1 = .ok () ∧
      d.after ((d.among refuses ending).settle r
        ((d.among refuses ending).unlessRefused r result)).2 = { d with tree } := by
  cases hresult : (d.among refuses ending).unlessRefused r result with
  | error cause => exact .inl ⟨_, rfl, rfl⟩
  | ok tree => exact .inr ⟨tree, unlessRefused_eq_ok hresult, rfl, rfl⟩

namespace MayAnswer

theorem makeDirectory {p : Path} {x : Except SystemFault Unit}
    (h : d.MayAnswer (.makeDirectory p) x d') :
    (∃ f, x = .error f ∧ d' = d) ∨
      ∃ tree, d.makeNew p (.directory (d.grantedMode 0o777)) = .ok tree ∧ x = .ok () ∧
        d' = { d with tree } := by
  cases h with
  | answered _ refuses ending => exact settle_cases refuses ending _ _

theorem write {p : Path} {bytes : List UInt8} {x : Except SystemFault Unit}
    (h : d.MayAnswer (.write p bytes) x d') :
    (∃ f, x = .error f ∧ d' = d) ∨
      (∃ f part tree, d.write p part = .ok tree ∧ x = .error f ∧ d' = { d with tree }) ∨
      ∃ tree, d.write p bytes = .ok tree ∧ x = .ok () ∧ d' = { d with tree } := by
  cases h with
  | answered _ refuses ending =>
    have hsettle := settle_cases (d := d) refuses ending (.write p bytes) (d.write p bytes)
    rcases hsettle with hrefused | hdone
    · exact .inl hrefused
    · exact .inr (.inr hdone)
  | torn _ _ part cause tree htree => exact .inr (.inl ⟨_, part, tree, htree, rfl, rfl⟩)

theorem setMode {p : Path} {mode : Nat} {x : Except SystemFault Unit}
    (h : d.MayAnswer (.setMode p mode) x d') :
    (∃ f, x = .error f ∧ d' = d) ∨
      ∃ tree, (d.find p).map (fun e => d.tree.put e.1 (e.2.withMode mode)) = .ok tree ∧
        x = .ok () ∧ d' = { d with tree } := by
  cases h with
  | answered _ refuses ending => exact settle_cases refuses ending _ _

theorem replace {p target : Path} {x : Except SystemFault Unit}
    (h : d.MayAnswer (.replace p target) x d') :
    (∃ f, x = .error f ∧ d' = d) ∨
      ∃ tree, d.replace p target = .ok tree ∧ x = .ok () ∧ d' = { d with tree } := by
  cases h with
  | answered _ refuses ending => exact settle_cases refuses ending _ _

/-- A removal is never refused for a cause outside the tree. -/
theorem remove {p : Path} {x : Except SystemFault Unit} (h : d.MayAnswer (.remove p) x d')
    {e : List String × Node} (he : d.find p = .ok e) :
    d' = { d with tree := d.tree.erase e.1 } := by
  cases h with
  | answered _ refuses ending =>
    have hfind : (d.among refuses ending).find p = .ok e := he
    simp only [answer, hfind]
    rfl

theorem inspect {p : Path} {x : Except SystemFault Node} (h : d.MayAnswer (.inspect p) x d') :
    d' = d ∧ ((∃ e, d.find p = .ok e ∧ x = .ok e.2) ∨
      ∃ f, x = .error f ∧ (f.cause = .noSuchEntry → d.find p = .error .noSuchEntry)) := by
  cases h with
  | answered _ refuses ending hseen =>
    cases hresult : (d.among refuses ending).unlessRefused (.inspect p)
        (((d.among refuses ending).find p).map (·.2)) with
    | error cause =>
      simp only [answer, report, hresult]
      refine ⟨rfl, .inr ⟨_, rfl, ?_⟩⟩
      rintro rfl
      have hfind := (unlessRefused_eq_error hresult).resolve_left (hseen p)
      exact map_eq_error_iff.1 hfind
    | ok n =>
      simp only [answer, report, hresult]
      obtain ⟨e, he, rfl⟩ := map_eq_ok_iff.1 (unlessRefused_eq_ok hresult)
      exact ⟨rfl, .inl ⟨e, he, rfl⟩⟩

theorem setWithheld {bits : Nat} {x : Nat} (h : d.MayAnswer (.setWithheld bits) x d') :
    x = d.withheld ∧ d' = { d with withheld := bits } := by
  cases h with
  | answered _ refuses ending => exact ⟨rfl, rfl⟩

theorem makeTemporary {directory : Path} {stem : String} {x : Except SystemFault Path}
    (h : d.MayAnswer (.makeTemporary directory stem) x d') :
    (∃ f, x = .error f ∧ d' = d) ∨
      ∃ p ending tree, ending ≠ "" ∧ p.parts.getLast? = some (stem ++ ending) ∧
        d.makeNew p (.file [] 0o600) = .ok tree ∧ x = .ok p ∧ d' = { d with tree } := by
  cases h with
  | answered _ refuses ending hseen hending =>
    simp only [answer]
    cases hmake : (d.among refuses ending).unlessRefused (.makeTemporary directory stem)
        ((d.among refuses ending).makeNew
          ((d.among refuses ending).temporaryPath directory stem) (.file [] 0o600)) with
    | error cause => exact .inl ⟨_, rfl, rfl⟩
    | ok tree =>
      have htree := unlessRefused_eq_ok hmake
      exact .inr ⟨_, ending, tree, hending, List.getLast?_concat, htree, rfl, rfl⟩

end MayAnswer

end Disk

end HomeCatalog
