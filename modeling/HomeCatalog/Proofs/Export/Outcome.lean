import HomeCatalog.Proofs.Export.WholeFile

/-!
# What an export leaves behind

Whatever requests are refused while a catalog is exported, and even if a write fails halfway, every
place holds afterwards what it held before, or a whole stream that goes there, or a new directory on
the way to the directory of the files (`exported_exportCatalog`). A stream that cannot be encoded
leaves the disk alone.

A file may be named so that its place is that of the directory itself. It can then not be written,
but the directory is made all the same (`directory_at_target`).
-/

namespace HomeCatalog

/-- The place is that of a directory or of one above it, as the path names them. -/
def Disk.OnTheWay (d : Disk) (directory : Path) (q : List String) : Prop :=
  ∃ names, names <+: directory.parts ∧ q = d.place { directory with parts := names }

/-- What may stand at a place after `old`, where some bytes are destined for it, and where the place
may be on the way to a directory. -/
inductive Leaves (withheld : Nat) (destined : List UInt8 → Prop) (onTheWay : Prop)
    (old : Option Node) : Option Node → Prop
  | same : Leaves withheld destined onTheWay old old
  | stream (bytes : List UInt8) (h : destined bytes)
      (hold : ∀ mode, old ≠ some (.directory mode)) :
      Leaves withheld destined onTheWay old (some (.file bytes (modeOver withheld old)))
  | made (h : onTheWay) (hold : old = none) :
      Leaves withheld destined onTheWay old (some (.directory (withoutBits 0o777 withheld)))

/-- Nothing is written by halves between two disks. -/
structure Disk.Whole (d : Disk) (destined : List String → List UInt8 → Prop) (directory : Path)
    (d' : Disk) : Prop where
  /-- Around the tree all is as it was, the bits that new files lack among it. -/
  around : d.SameAround d'
  /-- A place has what it had, or a whole stream, or a new directory. -/
  places : ∀ q, Leaves d.withheld (destined q) (d.OnTheWay directory q) (d.tree.node? q)
    (d'.tree.node? q)

/-- Bytes of a stream that goes to a place. -/
def Destined (c : Catalog) (directory : Path) (o : LayoutOptions) (names : FileNames) (d : Disk)
    (q : List String) (bytes : List UInt8) : Prop :=
  (q = d.place (directory.entry names.devices) ∧
    encodeText (directory.entry names.devices).text (devicesText o c) = .ok bytes) ∨
  (q = d.place (directory.entry names.vars) ∧
    encodeText (directory.entry names.vars).text (variablesText o c) = .ok bytes)

/-- The place holds these bytes, with the mode of what stood there or that of a new file. -/
def Disk.HoldsStream (d d' : Disk) (target : Path) (bytes : List UInt8) : Prop :=
  d'.tree.node? (d.place target) =
    some (.file bytes (modeOver d.withheld (d.tree.node? (d.place target))))

/-- What holds after an export, however it ends. -/
structure Exported (c : Catalog) (directory : Path) (o : LayoutOptions) (names : FileNames)
    (d : Disk) (result : Except ExportFault (Path × Path)) (d' : Disk) : Prop extends
    d.Whole (Destined c directory o names d) directory d' where
  /-- A stream that cannot be encoded is the fault, and the disk is as it was. -/
  encoded : ∀ f, encodeText (directory.entry names.devices).text (devicesText o c) = .error f ∨
      encodeText (directory.entry names.vars).text (variablesText o c) = .error f →
    (∃ g, result = .error (.encoding g)) ∧ d' = d
  /-- If all went well both streams are there. Of two for one place the second stays. -/
  written : ∀ paths, result = .ok paths →
    paths = (directory.entry names.devices, directory.entry names.vars) ∧
    (∃ bytes, encodeText (directory.entry names.vars).text (variablesText o c) = .ok bytes ∧
      d.HoldsStream d' (directory.entry names.vars) bytes) ∧
    (d.place (directory.entry names.devices) ≠ d.place (directory.entry names.vars) →
      ∃ bytes, encodeText (directory.entry names.devices).text (devicesText o c) = .ok bytes ∧
        d.HoldsStream d' (directory.entry names.devices) bytes)

namespace Leaves

variable {withheld : Nat} {destined : List UInt8 → Prop} {onTheWay : Prop}
  {old mid new : Option Node}

/-- The mode for a file is that of what stood there first. -/
theorem modeOver_eq (h : Leaves withheld destined onTheWay old mid)
    (hmid : ∀ mode, mid ≠ some (.directory mode)) :
    modeOver withheld mid = modeOver withheld old := by
  cases h with
  | same => rfl
  | stream bytes h hold => rfl
  | made h hold => exact absurd rfl (hmid _)

theorem trans (h : Leaves withheld destined onTheWay old mid)
    (h' : Leaves withheld destined onTheWay mid new) :
    Leaves withheld destined onTheWay old new := by
  cases h' with
  | same => exact h
  | stream bytes hdestined hmid =>
    rw [h.modeOver_eq hmid]
    refine .stream bytes hdestined fun mode hold => ?_
    cases h with
    | same => exact hmid mode hold
    | stream bytes' _ hold' => exact hold' mode hold
    | made _ _ => exact hmid _ rfl
  | made hway hmid =>
    cases h with
    | same => exact .made hway hmid
    | stream => cases hmid
    | made => cases hmid

theorem mono {destined' : List UInt8 → Prop} {onTheWay' : Prop}
    (h : Leaves withheld destined onTheWay old new)
    (hdestined : ∀ bytes, destined bytes → destined' bytes)
    (hway : onTheWay → onTheWay') : Leaves withheld destined' onTheWay' old new := by
  cases h with
  | same => exact .same
  | stream bytes h hold => exact .stream bytes (hdestined bytes h) hold
  | made h hold => exact .made (hway h) hold

end Leaves

namespace Disk

variable {d d₁ d₂ : Disk} {destined : List String → List UInt8 → Prop} {directory target : Path}
  {bytes : List UInt8}

theorem Whole.refl (d : Disk) : d.Whole destined directory d :=
  ⟨.refl d, fun _ => .same⟩

theorem SameAround.onTheWay_iff (h : d.SameAround d₁) {q : List String} :
    d₁.OnTheWay directory q ↔ d.OnTheWay directory q := by
  simp only [OnTheWay, h.place]

theorem Whole.trans (h : d.Whole destined directory d₁) (h₁ : d₁.Whole destined directory d₂) :
    d.Whole destined directory d₂ := by
  refine ⟨h.around.trans h₁.around, fun q => (h.places q).trans ?_⟩
  have hplace := h₁.places q
  rw [h.around.withheld] at hplace
  exact hplace.mono (fun _ => id) h.around.onTheWay_iff.1

theorem Untouched.whole (h : d.Untouched d₁) : d.Whole destined directory d₁ := by
  refine ⟨h.around, fun q => ?_⟩
  rw [h.holds]
  exact .same

theorem Whole.of_update {q : List String} {n : Node} (haround : d.SameAround d₁)
    (hholds : d₁.tree.node? = Function.update d.tree.node? q (some n))
    (h : Leaves d.withheld (destined q) (d.OnTheWay directory q) (d.tree.node? q) (some n)) :
    d.Whole destined directory d₁ := by
  refine ⟨haround, fun q' => ?_⟩
  rw [hholds, Function.update_apply]
  by_cases hq : q' = q
  · rw [if_pos hq, hq]
    exact h
  · rw [if_neg hq]
    exact .same

theorem Placed.whole (h : d.Placed target bytes d₁) (hdestined : destined (d.place target) bytes) :
    d.Whole destined directory d₁ :=
  .of_update h.around h.holds (.stream bytes hdestined fun mode hmode => h.free ⟨mode, hmode⟩)

theorem OnTheWay.of_parent {q : List String} (h : d.OnTheWay directory.parent q) :
    d.OnTheWay directory q := by
  obtain ⟨names, hnames, hq⟩ := h
  exact ⟨names, hnames.trans (List.dropLast_prefix _), hq⟩

theorem Whole.of_parent (h : d.Whole destined directory.parent d₁) :
    d.Whole destined directory d₁ :=
  ⟨h.around, fun q => (h.places q).mono (fun _ => id) .of_parent⟩

/-- A file put in its place later holds what it would hold had it been put there at once. -/
theorem Placed.holdsStream (h : d.Whole destined directory d₁) (h₁ : d₁.Placed target bytes d₂) :
    d.HoldsStream d₂ target bytes := by
  have hmid : ∀ mode, d₁.tree.node? (d.place target) ≠ some (.directory mode) := by
    intro mode hmode
    rw [← h.around.place] at hmode
    exact h₁.free ⟨mode, hmode⟩
  rw [HoldsStream, h₁.holds, h.around.place, Function.update_self, h.around.withheld,
    (h.places _).modeOver_eq hmid]

end Disk

namespace Export

open Disk

variable {d : Disk} {destined : List String → List UInt8 → Prop}

/-! ## Directories -/

/-- To look for a directory changes nothing. -/
theorem ensures_unlessDirectory {post : Disk → Prop} (h : post d) (p : Path) (f : SystemFault) :
    (unlessDirectory p f).Ensures d fun _ d' => post d' := by
  have hlook : (Task.isDirectory p).Ensures d fun _ d' => post d' := by
    rw [Task.isDirectory, Task.ensures_bind, Task.ensures_request]
    intro x d' hx
    obtain ⟨rfl, -⟩ := hx.inspect
    cases x with
    | ok n => exact h
    | error f =>
      dsimp only
      split
      · exact h
      · exact h
  exact hlook.andThen (fun _ _ h => h) fun _ _ h => h

/-- One directory is made where nothing is, or none. -/
theorem whole_of_makeDirectory {p : Path} {x : Except SystemFault Unit} {d₁ : Disk}
    (hx : d.MayAnswer (.makeDirectory p) x d₁) : d.Whole destined p d₁ := by
  rcases hx.makeDirectory with ⟨f, rfl, rfl⟩ | ⟨tree, htree, rfl, rfl⟩
  · exact .refl _
  · obtain ⟨-, hfree, hholds⟩ := makeNew_eq_ok htree
    have hway : d.OnTheWay p (d.place p) := ⟨p.parts, List.prefix_refl _, rfl⟩
    exact .of_update rfl hholds (.made hway hfree)

theorem ensures_makeDirectory (d : Disk) (p : Path) :
    (makeDirectory p).Ensures d fun _ d' => d.Whole destined p d' := by
  rw [makeDirectory, Task.ensures_bind, Task.ensures_request]
  intro x d₁ hx
  have hmade : d.Whole destined p d₁ := whole_of_makeDirectory hx
  cases x with
  | ok _ => exact hmade
  | error f =>
    dsimp only
    split
    · exact hmade
    · exact ensures_unlessDirectory hmade p f

/-- Directories are made on the way only, each where nothing was. -/
theorem ensures_makeDirectories (d : Disk) (p : Path) :
    (makeDirectories p).Ensures d fun _ d' => d.Whole destined p d' := by
  -- Along the recursion: what is above the path comes first, on the disk as the first try left it.
  induction p using makeDirectories.induct generalizing d with
  | case1 p ih =>
    rw [makeDirectories, Task.ensures_bind, Task.ensures_request]
    intro x d₁ hx
    have hmade : d.Whole destined p d₁ := whole_of_makeDirectory hx
    cases x with
    | ok _ => exact hmade
    | error f =>
      dsimp only
      split
      · exact ensures_unlessDirectory hmade p f
      · split
        · exact hmade
        · next hcause hparts =>
          refine (ih hparts d₁).andThen (fun e d₂ habove => hmade.trans habove.of_parent)
            fun _ d₂ habove => ?_
          have hlast : (makeDirectory p).Ensures d₂ fun _ d₃ => d₂.Whole destined p d₃ :=
            ensures_makeDirectory d₂ p
          exact hlast.mono fun _ d₃ hlast => hmade.trans (habove.of_parent.trans hlast)

/-! ## Streams -/

variable {devices vars : Path} {devicesBytes variablesBytes : List UInt8}

theorem ensures_writeStreams (d : Disk) (directory : Path)
    (hdevices : destined (d.place devices) devicesBytes)
    (hvars : destined (d.place vars) variablesBytes) :
    (writeStreams directory devices vars devicesBytes variablesBytes).Ensures d fun x d' =>
      d.Whole destined directory d' ∧ (x = .ok () → d.HoldsStream d' vars variablesBytes ∧
        (d.place devices ≠ d.place vars → d.HoldsStream d' devices devicesBytes)) := by
  have hdirectory : ((makeDirectories directory).liftFault
      (ExportFault.directory directory.text)).Ensures d fun _ d₁ => d.Whole destined directory d₁ :=
    Task.ensures_liftFault.2 (ensures_makeDirectories d directory)
  refine hdirectory.andThen (fun e d₁ h => ⟨h, fun hok => by cases hok⟩) fun _ d₁ h₁ => ?_
  refine (ensures_writeFile d₁ devices devicesBytes).andThen ?_ fun _ d₂ hfirst => ?_
  · rintro e d₂ (⟨-, -, h₂⟩ | ⟨⟨⟩, -⟩)
    exact ⟨h₁.trans h₂.whole, fun hok => by cases hok⟩
  obtain ⟨-, ⟨⟩, -⟩ | ⟨-, h₂⟩ := hfirst
  have hwhole : d.Whole destined directory d₂ := by
    refine h₁.trans (h₂.whole ?_)
    rw [h₁.around.place]
    exact hdevices
  refine (ensures_writeFile d₂ vars variablesBytes).mono fun x d₃ hsecond => ?_
  rcases hsecond with ⟨f, rfl, h₃⟩ | ⟨rfl, h₃⟩
  · exact ⟨hwhole.trans h₃.whole, fun hok => by cases hok⟩
  have hlast : d₂.Whole destined directory d₃ := by
    refine h₃.whole ?_
    rw [hwhole.around.place]
    exact hvars
  refine ⟨hwhole.trans hlast, fun _ => ⟨h₃.holdsStream hwhole, fun hne => ?_⟩⟩
  -- The second file is put elsewhere, and leaves the first alone.
  have hfirst := h₂.holdsStream h₁
  rw [HoldsStream, h₃.holds, hwhole.around.place, Function.update_of_ne hne]
  exact hfirst

end Export

section Export

variable (c : Catalog) (directory : Path) (o : LayoutOptions) (names : FileNames) (d : Disk)

theorem exported_of_encoding (f : EncodingFault) :
    Exported c directory o names d (.error (.encoding f)) d where
  toWhole := .refl d
  encoded _ _ := ⟨⟨f, rfl⟩, rfl⟩
  written _ h := by cases h

/-- However the requests of an export are answered, files are written as a whole or not at all. -/
theorem exported_exportCatalog :
    (exportCatalog c directory o names).Ensures d (Exported c directory o names d) := by
  unfold exportCatalog
  dsimp only
  cases hdevices : encodeText (directory.entry names.devices).text (devicesText o c) with
  | error f => exact exported_of_encoding c directory o names d f
  | ok devicesBytes =>
    dsimp only
    cases hvars : encodeText (directory.entry names.vars).text (variablesText o c) with
    | error f => exact exported_of_encoding c directory o names d f
    | ok variablesBytes =>
      have hencoded : ∀ f, ¬ (encodeText (directory.entry names.devices).text (devicesText o c) =
            .error f ∨
          encodeText (directory.entry names.vars).text (variablesText o c) = .error f) := by
        simp [hdevices, hvars]
      have hfirst : Destined c directory o names d (d.place (directory.entry names.devices))
          devicesBytes := .inl ⟨rfl, hdevices⟩
      have hsecond : Destined c directory o names d (d.place (directory.entry names.vars))
          variablesBytes := .inr ⟨rfl, hvars⟩
      have hstreams := Export.ensures_writeStreams d directory hfirst hsecond
      refine hstreams.andThen (fun e d' h => ?_) fun _ d' h => ?_
      · exact ⟨h.1, fun f hf => absurd hf (hencoded f), fun paths hok => by cases hok⟩
      · obtain ⟨hwhole, hdone⟩ := h
        obtain ⟨hlast, hfirst⟩ := hdone rfl
        refine ⟨hwhole, fun f hf => absurd hf (hencoded f), ?_⟩
        rintro paths ⟨⟩
        exact ⟨rfl, ⟨_, hvars, hlast⟩, fun hne => ⟨_, hdevices, hfirst hne⟩⟩

end Export

/-- The devices go to a file named by nothing, so its place is that of the directory. That place
held nothing, and holds no file afterwards. -/
theorem directory_at_target :
    ¬ (((exportCatalog {} ⟨"", ["out"]⟩ {} { devices := "" }).run { tree := [] }).2.tree.node?
          (Disk.place { tree := [] } (Path.entry ⟨"", ["out"]⟩ "")) = none ∨
      ∃ bytes mode,
        ((exportCatalog {} ⟨"", ["out"]⟩ {} { devices := "" }).run { tree := [] }).2.tree.node?
          (Disk.place { tree := [] } (Path.entry ⟨"", ["out"]⟩ "")) = some (.file bytes mode)) := by
  have hdevices : devicesText {} {} = "" := by
    simp [devicesText, sortedDeviceEntries]
  have hvars : variablesText {} {} = "" := by
    simp [variablesText, sortedVariables]
  have hfirst : Path.entry ⟨"", ["out"]⟩ "" = ⟨"", ["out"]⟩ := by decide
  have hsecond : Path.entry ⟨"", ["out"]⟩ "habconf.items" = ⟨"", ["out", "habconf.items"]⟩ := by
    decide
  have hmade : (Export.makeDirectories ⟨"", ["out"]⟩).run { tree := [] } =
      (.ok (), { tree := [(["out"], .directory 0o755)] }) := by
    rw [Export.makeDirectories, Task.run_bind, Task.run_request]
    rfl
  have htree : ((exportCatalog {} ⟨"", ["out"]⟩ {} { devices := "" }).run { tree := [] }).2.tree =
      [(["out"], .directory 0o755)] := by
    rw [exportCatalog]
    simp only [hdevices, hvars, hfirst, hsecond]
    change (((Export.writeStreams _ _ _ [] []).andThen _).run _).2.tree = _
    rw [Task.run_andThen, Export.writeStreams, Task.run_andThen, Task.liftFault, Task.run_bind,
      hmade]
    rfl
  rw [htree, hfirst]
  have hplace : FileTree.node? [(["out"], .directory 0o755)]
      (Disk.place { tree := [] } ⟨"", ["out"]⟩) = some (.directory 0o755) := rfl
  rw [hplace]
  rintro (hnone | ⟨bytes, mode, hfile⟩)
  · cases hnone
  · cases hfile

end HomeCatalog
