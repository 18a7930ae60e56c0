import HomeCatalog.Proofs.Command.Spelling
import HomeCatalog.Proofs.Traversal

/-!
# Arguments of a conversion

Whatever arguments are read as a conversion spell what it is asked to do, and nothing else
(`asks_iff_of_invocation`). An argument is what its word says of it (`word?_cases`), and the words
of a command give what its parts give one after the other (`spells_of_given`).
-/

namespace HomeCatalog.Command

/-! ## Words -/

section Words

variable {names : SwitchNames} {arg : String}

theorem splitJoined_eq_some {name part : String} (h : splitJoined arg = (name, some part)) :
    arg = name ++ "=" ++ part := by
  unfold splitJoined at h
  split at h
  · next cs part' parts hpieces =>
    obtain ⟨rfl, hpart⟩ := Prod.mk.inj h
    obtain rfl := Option.some.inj hpart
    have harg := Text.joined_pieces '=' arg.toList
    rw [hpieces] at harg
    rw [← String.toList_inj]
    simpa [Text.joined] using harg.symm
  · cases h

theorem splitJoined_eq_none {name : String} (h : splitJoined arg = (name, none)) : name = arg := by
  unfold splitJoined at h
  split at h
  · cases h
  · exact (Prod.mk.inj h).1.symm

theorem not_mem_splitJoined (arg : String) : '=' ∉ (splitJoined arg).1.toList := by
  have hpiece : ∀ p ∈ Text.pieces '=' arg.toList, '=' ∉ p := fun _ => Text.not_mem_of_mem_pieces
  have hjoined := Text.joined_pieces '=' arg.toList
  unfold splitJoined
  split
  · next hpieces =>
    rw [String.toList_ofList]
    exact hpiece _ (by rw [hpieces]; exact List.mem_cons_self)
  · next hnone =>
    cases hpieces : Text.pieces '=' arg.toList with
    | nil => exact absurd hpieces (Text.pieces_ne_nil _ _)
    | cons p ps =>
      cases ps with
      | nil =>
        rw [hpieces, Text.joined] at hjoined
        exact hjoined ▸ hpiece p (by rw [hpieces]; exact List.mem_cons_self)
      | cons q qs => exact (hnone _ _ _ hpieces).elim

theorem toList_splitJoined_fst (arg : String) :
    (splitJoined arg).1.toList = arg.toList.takeWhile (· != '=') := by
  have hname := not_mem_splitJoined arg
  obtain ⟨name, part?, hsplit⟩ : ∃ name part?, splitJoined arg = (name, part?) := ⟨_, _, rfl⟩
  rw [hsplit] at hname ⊢
  have hall : ∀ c ∈ name.toList, (c != '=') = true := fun c hc =>
    bne_iff_ne.2 fun h => hname (h ▸ hc)
  cases part? with
  | none =>
    rw [splitJoined_eq_none hsplit] at hall ⊢
    rw [← List.append_nil arg.toList, List.takeWhile_append_of_pos hall, List.takeWhile_nil]
  | some v =>
    rw [splitJoined_eq_some hsplit, String.toList_append, String.toList_append, List.append_assoc,
      List.takeWhile_append_of_pos hall]
    simp

/-- What resembles a switch has candidates. -/
theorem not_resembles_of_candidates (h : candidates names arg = []) : ¬Resembles names arg := by
  unfold candidates at h
  dsimp only at h
  have hname := toList_splitJoined_fst arg
  intro hresembles
  cases hresembles with
  | @beginning t harg hdashes p hp hbegins =>
    rw [String.startsWith_string_iff] at hdashes hbegins
    -- The text up to the first equals sign is a beginning of the name, with both of its dashes.
    have hshort : (splitJoined arg).1.toList <+: t.toList := by
      rw [hname]
      obtain rfl | ⟨v, rfl⟩ := harg
      · exact List.takeWhile_prefix _
      · rw [String.toList_append, String.toList_append, List.append_assoc, List.takeWhile_append]
        split
        · simp
        · exact List.takeWhile_prefix _
    have hlong : (splitJoined arg).1.startsWith "--" = true := by
      have hfree : ∀ c ∈ "--".toList, (c != '=') = true := by simp
      obtain ⟨rest, hrest⟩ := hdashes.trans (Names.prefix_of_eq harg)
      rw [String.startsWith_string_iff, hname, ← hrest, List.takeWhile_append_of_pos hfree]
      exact List.prefix_append _ _
    rw [if_pos hlong, List.map_eq_nil_iff, List.filter_eq_nil_iff] at h
    exact h p hp (String.startsWith_string_iff.2 (hshort.trans hbegins))
  | @letter hdashes p hp hp2 =>
    have hshort : ¬(splitJoined arg).1.startsWith "--" = true := by
      rw [Bool.eq_false_iff] at hdashes
      refine mt (fun hlong => ?_) hdashes
      rw [String.startsWith_string_iff] at hlong ⊢
      exact hlong.trans (hname ▸ List.takeWhile_prefix _)
    rw [if_neg hshort, List.map_eq_nil_iff, List.filter_eq_nil_iff] at h
    exact h p hp (by simpa [← String.toList_inj] using hp2)

/-- The word of a switch that has this name, alone or with a value joined to it. -/
inductive NamedBy (names : SwitchNames) (arg : String) : Word → Prop
  | alone {s : Switch} (h : Names names s arg) : NamedBy names arg (.named s none)
  | joined {s : Switch} {t v : String} (h : Names names s t) (harg : arg = t ++ "=" ++ v) :
    NamedBy names arg (.named s (some v))

theorem namedBy_of_splitJoined {name : String} {part? : Option String}
    (hsplit : splitJoined arg = (name, part?)) {s : Switch} (h : Names names s name) :
    NamedBy names arg (.named s part?) := by
  cases part? with
  | none =>
    rw [splitJoined_eq_none hsplit] at h
    exact .alone h
  | some v => exact .joined h (splitJoined_eq_some hsplit)

theorem mem_of_lookup {t : String} {s : Switch} (h : names.lookup t = some s) : (t, s) ∈ names := by
  obtain ⟨before, after, rfl, -⟩ := List.lookup_eq_some_iff.1 h
  exact List.mem_append_right _ List.mem_cons_self

/-- What stands alone among the candidates is a switch with no other name that begins so. -/
theorem namedBy_of_candidates {w : Word} (h : candidates names arg = [w]) :
    NamedBy names arg w ∨ ∃ s more, w = .letters s more := by
  obtain ⟨name, part?, hsplit⟩ : ∃ name part?, splitJoined arg = (name, part?) := ⟨_, _, rfl⟩
  unfold candidates at h
  rw [hsplit] at h
  dsimp only at h
  split at h
  · next hdashes =>
    obtain ⟨⟨n, s⟩, hfilter, rfl⟩ := List.map_eq_singleton_iff.1 h
    refine .inl (namedBy_of_splitJoined hsplit (.beginning n hdashes fun p => ?_))
    have hp : p ∈ names.filter (fun m => m.1.startsWith name) ↔ p = (n, s) := by
      rw [hfilter, List.mem_singleton]
    rwa [List.mem_filter] at hp
  · obtain ⟨n, -, rfl⟩ := List.map_eq_singleton_iff.1 h
    exact .inr ⟨_, _, rfl⟩

/-- What a word says of its argument. -/
theorem word?_cases {w : Word} (h : word? names arg = some w) :
    (w = .plain arg ∧ Plain names arg) ∨ w = .unknown ∨ (∃ s more, w = .letters s more) ∨
      NamedBy names arg w := by
  obtain ⟨name, part?, hsplit⟩ : ∃ name part?, splitJoined arg = (name, part?) := ⟨_, _, rfl⟩
  unfold word? at h
  rw [hsplit] at h
  dsimp only at h
  split at h
  · next hplain =>
    obtain rfl := Option.some.inj h
    rw [Bool.or_eq_true, Bool.not_eq_true', decide_eq_true_eq] at hplain
    exact .inl ⟨rfl, hplain.elim .undashed .short⟩
  · split at h
    · next s hlookup =>
      obtain rfl := Option.some.inj h
      exact .inr (.inr (.inr (.alone (.whole (mem_of_lookup hlookup)))))
    · next s _ hlookup =>
      obtain rfl := Option.some.inj h
      exact .inr (.inr (.inr (namedBy_of_splitJoined hsplit (.whole (mem_of_lookup hlookup)))))
    · split at h
      · next hcandidates =>
        have hno := not_resembles_of_candidates hcandidates
        split at h
        · next hother =>
          obtain rfl := Option.some.inj h
          rw [Bool.or_eq_true] at hother
          exact .inl ⟨rfl, hother.elim (.number · hno) (.blank · hno)⟩
        · obtain rfl := Option.some.inj h
          exact .inr (.inl rfl)
      · next hcandidates =>
        obtain rfl := Option.some.inj h
        obtain hnamed | hletters := namedBy_of_candidates hcandidates
        · exact .inr (.inr (.inr hnamed))
        · exact .inr (.inr (.inl hletters))
      · cases h

theorem plain_of_word? {v : String} (h : word? names arg = some (.plain v)) :
    v = arg ∧ Plain names arg := by
  obtain ⟨hv, hplain⟩ | hunknown | ⟨_, _, hletters⟩ | hnamed := word?_cases h
  · exact ⟨Word.plain.inj hv, hplain⟩
  · cases hunknown
  · cases hletters
  · cases hnamed

theorem namedBy_of_word? {s : Switch} {value? : Option String}
    (h : word? names arg = some (.named s value?)) : NamedBy names arg (.named s value?) := by
  obtain ⟨hv, -⟩ | hunknown | ⟨_, _, hletters⟩ | hnamed := word?_cases h
  · cases hv
  · cases hunknown
  · cases hletters
  · exact hnamed

end Words

/-! ## Reading -/

/-- What has been given with one more part. -/
def Given.add (g : Given) : Part → Given
  | .directory s => g.withPlain s
  | .switch s value => g.withSwitch s value

theorem Given.leftover_withPlain {g : Given} (h : g.leftover = true) (s : String) :
    (g.withPlain s).leftover = true := by
  unfold withPlain
  split
  · exact h
  · rfl

/-- What is of no use stays so. -/
theorem leftover_of_readWords {g g' : Given} {words : List Word} (h : readWords g words = .ok g')
    (hg : g.leftover = true) : g'.leftover = true := by
  fun_induction readWords g words with
  | case1 =>
    cases h
    exact hg
  | case2 g s rest ih => exact ih h (Given.leftover_withPlain hg s)
  | case3 g rest ih => exact ih h rfl
  | case6 g s joined rest hs ih => exact ih h hg
  | case8 g s hne hs v rest ih => exact ih h hg
  | case10 g s rest hne hs ih => exact ih h hg
  | _ => cases h

/-- Words that leave nothing over are those of parts, and give what the parts give one after the
other. More arguments may follow. -/
theorem spells_of_readWords {names : SwitchNames} {g g' : Given} {words : List Word}
    (h : readWords g words = .ok g') (hall : g'.leftover = false) {args tail : List String}
    {more : List Part} (hwords : List.Forall₂ (fun arg w => word? names arg = some w) args words)
    (htail : Spells names tail more) :
    ∃ parts, Spells names (args ++ tail) (parts ++ more) ∧ g' = parts.foldl Given.add g := by
  fun_induction readWords g words generalizing args with
  | case1 =>
    cases h
    cases hwords
    exact ⟨[], htail, rfl⟩
  | case2 g s rest ih =>
    obtain _ | ⟨hw, hrest⟩ := hwords
    obtain ⟨rfl, hs⟩ := plain_of_word? hw
    obtain ⟨parts, hparts, rfl⟩ := ih h hrest
    exact ⟨.directory s :: parts, .directory hs hparts, rfl⟩
  | case3 g rest ih =>
    rw [leftover_of_readWords h rfl] at hall
    cases hall
  | case6 g s joined rest hs ih =>
    obtain _ | ⟨hw, hrest⟩ := hwords
    cases namedBy_of_word? hw with
    | joined ht harg =>
      obtain ⟨parts, hparts, rfl⟩ := ih h hrest
      exact ⟨.switch s joined :: parts, .joined ht hs harg hparts, rfl⟩
  | case8 g s hne hs v rest ih =>
    obtain _ | ⟨hw, _ | ⟨hv, hrest⟩⟩ := hwords
    obtain ⟨rfl, hplain⟩ := plain_of_word? hv
    cases namedBy_of_word? hw with
    | alone ht =>
      obtain ⟨parts, hparts, rfl⟩ := ih h hrest
      exact ⟨.switch s v :: parts, .apart ht hs hplain hparts, rfl⟩
  | case10 g s rest hne hs ih =>
    obtain _ | ⟨hw, hrest⟩ := hwords
    cases namedBy_of_word? hw with
    | alone ht =>
      obtain ⟨parts, hparts, rfl⟩ := ih h hrest
      exact ⟨.switch s "" :: parts, .flag ht (Bool.eq_false_iff.2 hs) hparts, rfl⟩
  | _ => cases h

theorem forall₂_of_mapM {names : SwitchNames} {args : List String} {words : List Word}
    (h : args.mapM (word? names) = some words) :
    List.Forall₂ (fun arg w => word? names arg = some w) args words := by
  induction args generalizing words with
  | nil =>
    cases h
    exact .nil
  | cons arg args ih =>
    simp only [List.mapM_cons, Option.pure_def, Option.bind_eq_bind, Option.bind_eq_some_iff] at h
    obtain ⟨w, hw, ws, hws, ⟨⟩⟩ := h
    exact .cons hw (ih hws)

/-! ## What parts give -/

section Parts

variable (parts : List Part) (g : Given)

theorem switches_foldl_add : (parts.foldl Given.add g).switches =
    (parts.filterMap Part.switch?).reverse ++ g.switches := by
  induction parts generalizing g with
  | nil => rfl
  | cons p parts ih =>
    rw [List.foldl_cons, ih]
    cases p with
    | directory s =>
      have hsame : (g.withPlain s).switches = g.switches := by
        unfold Given.withPlain
        split <;> rfl
      rw [Given.add, hsame]
      rfl
    | switch s value => simp [Given.add, Given.withSwitch, Part.switch?]

theorem leftover_foldl_add (hg : g.leftover = true) :
    (parts.foldl Given.add g).leftover = true := by
  induction parts generalizing g with
  | nil => exact hg
  | cons p parts ih =>
    cases p with
    | directory s => exact ih _ (Given.leftover_withPlain hg s)
    | switch s value => exact ih _ hg

/-- Where nothing is left over there is one directory at most. -/
theorem directory_foldl_add (hall : (parts.foldl Given.add g).leftover = false) :
    (parts.foldl Given.add g).directory.toList =
      g.directory.toList ++ parts.filterMap Part.directory? := by
  induction parts generalizing g with
  | nil => simp
  | cons p parts ih =>
    rw [List.foldl_cons] at hall ⊢
    cases p with
    | directory s =>
      rw [ih _ hall]
      cases hdirectory : g.directory with
      | none => simp [Given.add, Given.withPlain, hdirectory, Part.directory?]
      | some t =>
        have hleft : (g.add (.directory s)).leftover = true := by
          simp [Given.add, Given.withPlain, hdirectory]
        rw [leftover_foldl_add parts _ hleft] at hall
        cases hall
    | switch s value =>
      rw [ih _ hall]
      rfl

end Parts

theorem withRest_eq_foldl {g : Given} {rest : List String}
    (h : (g.withRest rest).leftover = false) :
    g.withRest rest = (rest.map Part.directory).foldl Given.add g := by
  cases rest with
  | nil =>
    unfold Given.withRest at h ⊢
    dsimp only at h ⊢
    split at h
    · cases h
    · next hlast => rw [if_neg hlast]; rfl
  | cons s rest =>
    rw [List.foldl_map]
    rfl

/-- What a command is given is what the parts give that its arguments spell. -/
theorem spells_of_given {names : SwitchNames} {args : List String} {g : Given}
    (h : given names args = .ok g) :
    ∃ parts, Spells names args parts ∧ g.leftover = false ∧ g = parts.foldl Given.add {} := by
  unfold given at h
  split at h
  · cases h
  · next words hmap =>
    have hwords := forall₂_of_mapM hmap
    split at h
    · cases h
    · next g₀ hread =>
      have hargs := args.takeWhile_append_dropWhile (p := (· ≠ "--"))
      dsimp only at h
      split at h
      · next hafter =>
        obtain ⟨hall, rfl⟩ := ite_error_eq_ok_iff.1 h
        obtain ⟨parts, hparts, rfl⟩ := spells_of_readWords hread hall hwords .nil
        rw [List.append_nil, ← List.append_nil (args.takeWhile _), ← hafter, hargs] at hparts
        exact ⟨_, hparts, hall, by rw [List.append_nil]⟩
      · next dashes rest hafter =>
        obtain ⟨hall, rfl⟩ := ite_error_eq_ok_iff.1 h
        have hdashes : dashes = "--" := by
          have hhead := List.head?_dropWhile_not (fun s => decide (s ≠ "--")) args
          rw [hafter] at hhead
          simpa using hhead
        have hfold := withRest_eq_foldl hall
        rw [hfold] at hall ⊢
        have hbefore : g₀.leftover = false := by
          cases hg : g₀.leftover with
          | false => rfl
          | true => rw [leftover_foldl_add _ _ hg] at hall; cases hall
        obtain ⟨parts, hparts, rfl⟩ := spells_of_readWords hread hbefore hwords (.dashes rest)
        rw [hafter, hdashes] at hargs
        rw [hargs] at hparts
        exact ⟨_, hparts, hall, List.foldl_append.symm⟩

theorem lookup_eq_head? {α β : Type} [BEq α] [LawfulBEq α] [DecidableEq α] (ps : List (α × β))
    (k : α) : ps.lookup k = (ps.filterMap fun p => if p.1 = k then some p.2 else none).head? := by
  induction ps with
  | nil => rfl
  | cons p ps ih =>
    rw [List.lookup_cons, List.filterMap_cons]
    by_cases hp : p.1 = k
    · simp [hp]
    · have hk : (k == p.1) = false := beq_eq_false_iff_ne.2 (Ne.symm hp)
      rw [hk, if_neg hp]
      exact ih

/-- The value of a switch is the last that the parts give it. -/
theorem value?_foldl_add (parts : List Part) (s : Switch) :
    (parts.foldl Given.add {}).value? s = (valuesOf s parts).getLast? := by
  rw [Given.value?, switches_foldl_add, List.append_nil, lookup_eq_head?, List.filterMap_reverse,
    List.head?_reverse]
  rfl

theorem resolves_foldl_add {parts : List Part} {g : Given} (hg : g = parts.foldl Given.add {})
    (hall : g.leftover = false) : Resolves parts
      { directory := g.directory.getD ".", config := g.value? .config, input := g.value? .input,
        output := g.value? .output, filter := g.value? .filter,
        includeDefaultEndpoints := (g.value? .includeDefaultEndpoints).isSome,
        verbose := (g.value? .verbose).isSome } := by
  subst hg
  have hdirectory := directory_foldl_add parts {} hall
  have hgiven : ∀ s, ((parts.foldl Given.add {}).value? s).isSome = true ↔
      valuesOf s parts ≠ [] := by
    intro s
    rw [value?_foldl_add]
    simp [Option.isSome_iff_ne_none]
  refine ⟨?_, value?_foldl_add _ _, value?_foldl_add _ _, value?_foldl_add _ _,
    value?_foldl_add _ _, hgiven _, hgiven _⟩
  have hparts : parts.filterMap Part.directory? = _ := hdirectory.symm
  rw [hparts]
  cases (parts.foldl Given.add {}).directory with
  | none => exact .inl ⟨rfl, rfl⟩
  | some s => exact .inr rfl

theorem asks_of_commandOf {name : String} {args : List String} {a : ConvertArguments}
    (h : commandOf name args = .convert a) : Asks (name :: args) a := by
  unfold commandOf at h
  split at h
  · split at h
    · next e _ => cases e <;> cases h
    · cases h
  · split at h
    · next e _ => cases e <;> cases h
    · next g hg =>
      obtain ⟨parts, hparts, hall, hfold⟩ := spells_of_given hg
      obtain rfl := Invocation.convert.inj h
      exact ⟨args, parts, rfl, hparts, resolves_foldl_add hfold hall⟩
  · cases h

/-- Where a conversion is asked for, everything before its name would have been of no use. -/
theorem asks_of_invocationFrom {leftover : Bool} {args : List String} {a : ConvertArguments}
    (h : invocationFrom leftover args = .convert a) : leftover = false ∧ Asks args a := by
  induction args generalizing leftover with
  | nil => cases leftover <;> cases h
  | cons arg rest ih =>
    unfold invocationFrom at h
    split at h
    · cases h
    · split at h
      · cases h
      · cases (ih h).1
      · next more _ => cases hmore : helpLetters more <;> rw [hmore] at h <;> cases h
      · cases h
      · cases h
      · next name hw =>
        obtain ⟨rfl, -⟩ := plain_of_word? hw
        split at h
        · cases h
        · next i _ =>
          cases leftover with
          | true => cases h
          | false => exact ⟨rfl, asks_of_commandOf h⟩

/-- Arguments that are read as a conversion spell this one and no other. -/
theorem asks_iff_of_invocation {args : List String} {a : ConvertArguments}
    (h : invocation args = .convert a) (a' : ConvertArguments) : Asks args a' ↔ a' = a := by
  have ha : Asks args a := (asks_of_invocationFrom h).2
  exact ⟨fun ha' => ha'.unique ha, fun he => he ▸ ha⟩

end HomeCatalog.Command
