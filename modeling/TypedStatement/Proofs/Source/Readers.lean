import TypedStatement.Proofs.Source.FirstToken

/-!
# Runs of readers

How a reader runs is said by `run`: the value it answers and the tokens it leaves.  A sequence of readers is run step by
step (`run_bind_eq_ok_iff`), and a repeated reader as many times as it answers something (`Repeats`).

As an instance, what reads as a visibility is read again from its own tokens (`run_visibility_of_parse`).
-/

namespace TypedStatement.Source
set_option autoImplicit false

namespace Reader

variable {α β : Type}

/-! ## Sequences -/

theorem run_bind_of_ok {reader : Reader α} {next : α → Reader β} {tokens later : List Token} {value : α}
    (h : reader.run tokens = .ok (value, later)) : (reader >>= next).run tokens = (next value).run later := by
  rw [StateT.run_bind, h]
  rfl

/-- A reader that looks at the tokens takes none. -/
theorem run_get_bind (next : List Token → Reader β) (tokens : List Token) :
    (get >>= next).run tokens = (next tokens).run tokens := rfl

theorem run_bind_eq_ok_iff (reader : Reader α) (next : α → Reader β) (tokens rest : List Token) (result : β) :
    (reader >>= next).run tokens = .ok (result, rest) ↔
      ∃ value later, reader.run tokens = .ok (value, later) ∧ (next value).run later = .ok (result, rest) := by
  constructor
  · intro h
    cases hfirst : reader.run tokens with
    | error error =>
      rw [StateT.run_bind, hfirst] at h
      exact absurd h (by simp [bind, Except.bind])
    | ok found =>
      obtain ⟨value, later⟩ := found
      rw [run_bind_of_ok hfirst] at h
      exact ⟨value, later, rfl, h⟩
  · rintro ⟨value, later, hfirst, hnext⟩
    rw [run_bind_of_ok hfirst, hnext]

/-- A whole list of tokens is read exactly if nothing is left of it. -/
theorem all_eq_ok_iff (reader : Reader α) (tokens : List Token) (value : α) :
    reader.all tokens = .ok value ↔ reader.run tokens = .ok (value, []) := by
  unfold all
  cases reader.run tokens with
  | error error => simp
  | ok found =>
    obtain ⟨found, rest⟩ := found
    cases rest <;> simp

/-- A group is read if the reader takes all that is inside. -/
theorem run_group (delimiter : Delimiter) {inside : Reader α} {content : List Token} {value : α}
    (h : inside.run content = .ok (value, [])) (rest : List Token) :
    (group delimiter inside).run (.group delimiter content :: rest) = .ok (value, rest) := by
  unfold group
  rw [run_get_bind]
  dsimp only
  rw [if_pos rfl, h]
  rfl

theorem run_withRules (reader : Table → Reader α) (tokens : List Token) :
    (Grammar.withRules reader).run tokens = (reader (Grammar.rules (8 * Token.countAll tokens + 16))).run tokens :=
  rfl

/-! ## Repetition -/

/-- The reader answers these values one after the other, taking a token each time, and then nothing. -/
inductive Repeats (one : Reader (Option α)) : List Token → List α → List Token → Prop
  | stop {tokens rest : List Token} : one.run tokens = .ok (none, rest) → Repeats one tokens [] rest
  | step {tokens later rest : List Token} {value : α} {values : List α} :
    one.run tokens = .ok (some value, later) → later.length < tokens.length → Repeats one later values rest →
    Repeats one tokens (value :: values) rest

theorem run_marked {one : Reader (Option α)} {tokens later : List Token} {value : Option α}
    (h : one.run tokens = .ok (value, later)) :
    (do return (← one).map (·, true) : Reader (Option (α × Bool))).run tokens = .ok (value.map (·, true), later) :=
  run_bind_of_ok h

theorem run_chainUpTo {one : Reader (Option α)} {tokens rest : List Token} {values : List α}
    (h : Repeats one tokens values rest) (limit : Nat) (hlimit : tokens.length < limit) :
    (chainUpTo limit do return (← one).map (·, true)).run tokens = .ok (values, rest) := by
  induction h generalizing limit with
  | stop hstop =>
    obtain ⟨limit, rfl⟩ := Nat.exists_eq_succ_of_ne_zero (Nat.ne_zero_of_lt hlimit)
    rw [chainUpTo]
    exact run_bind_of_ok (run_marked hstop)
  | step hstep hless _ ih =>
    obtain ⟨limit, rfl⟩ := Nat.exists_eq_succ_of_ne_zero (Nat.ne_zero_of_lt hlimit)
    have hrest := ih limit (by omega)
    rw [chainUpTo]
    exact (run_bind_of_ok (run_marked hstep)).trans (run_bind_of_ok hrest)

theorem run_many {one : Reader (Option α)} {tokens rest : List Token} {values : List α}
    (h : Repeats one tokens values rest) : (many one).run tokens = .ok (values, rest) :=
  run_chainUpTo h _ (Nat.lt_succ_self _)

/-- Every value of a repeated reader is one that it answers somewhere. -/
theorem forall_of_run_chainUpTo {one : Reader (Option α)} {holds : α → Prop}
    (hone : ∀ tokens value later, one.run tokens = .ok (some value, later) → holds value) (limit : Nat)
    {tokens rest : List Token} {values : List α}
    (h : (chainUpTo limit do return (← one).map (·, true)).run tokens = .ok (values, rest)) :
    ∀ value ∈ values, holds value := by
  induction limit generalizing tokens values with
  | zero =>
    obtain rfl : [] = values := congrArg Prod.fst (Except.ok.inj h)
    simp
  | succ limit ih =>
    rw [chainUpTo, run_bind_eq_ok_iff] at h
    obtain ⟨answer, later, hanswer, h⟩ := h
    obtain ⟨found, between, hfound, hsame⟩ := (run_bind_eq_ok_iff _ _ _ _ _).1 hanswer
    obtain ⟨rfl, rfl⟩ := Prod.mk.inj (Except.ok.inj hsame)
    cases found with
    | none =>
      obtain rfl : [] = values := congrArg Prod.fst (Except.ok.inj h)
      simp
    | some value =>
      obtain ⟨others, final, hothers, hcons⟩ := (run_bind_eq_ok_iff _ _ _ _ _).1 h
      obtain ⟨rfl, rfl⟩ := Prod.mk.inj (Except.ok.inj hcons)
      intro each heach
      rcases List.mem_cons.1 heach with rfl | heach
      · exact hone _ _ _ hfound
      · exact ih hothers each heach

theorem forall_of_run_many {one : Reader (Option α)} {holds : α → Prop}
    (hone : ∀ tokens value later, one.run tokens = .ok (some value, later) → holds value) {tokens rest : List Token}
    {values : List α} (h : (many one).run tokens = .ok (values, rest)) : ∀ value ∈ values, holds value :=
  forall_of_run_chainUpTo hone _ h

end Reader

/-! ## Paths without arguments -/

/-- The identifier may stand in a path that names a module. -/
def Ident.NamesModule (ident : Ident) : Prop :=
  ((Token.ident ident).isUsableIdent || ["super", "self", "Self", "crate"].any ((Token.ident ident).isWord ·)) = true

namespace Reader

/-- What reads a further name of a path. -/
def furtherName : Reader (Option Ident) := do
  if ← sees "::" then
    let _ ← operator "::"
    if ← seesModuleName then return some (← anyIdent) else refused "expected path segment after `::`"
  else return none

theorem eq_cons_of_run_anyIdent (tokens rest : List Token) (ident : Ident)
    (h : anyIdent.run tokens = .ok (ident, rest)) : tokens = .ident ident :: rest := by
  cases tokens with
  | nil => cases h
  | cons token later =>
    cases token with
    | ident found =>
      obtain ⟨rfl, rfl⟩ := Prod.mk.inj (Except.ok.inj h)
      rfl
    | punct c spacing => cases h
    | literal text => cases h
    | group delimiter content => cases h

theorem run_seesModuleName (name : Ident) (rest : List Token) (h : name.NamesModule) :
    seesModuleName.run (.ident name :: rest) = .ok (true, .ident name :: rest) := by
  change Except.ok (_, _) = _
  rw [← h]
  rfl

theorem namesModule_of_run_seesModuleName (tokens later : List Token) (name : Ident) (rest : List Token)
    (hsees : seesModuleName.run tokens = .ok (true, later)) (hname : anyIdent.run later = .ok (name, rest)) :
    name.NamesModule := by
  obtain ⟨htrue, rfl⟩ := Prod.mk.inj (Except.ok.inj hsees)
  rw [eq_cons_of_run_anyIdent tokens rest name hname] at htrue
  exact htrue

theorem run_furtherName (name : Ident) (rest : List Token) (h : name.NamesModule) :
    furtherName.run (Token.pathSeparator ++ .ident name :: rest) = .ok (some name, rest) := by
  change (do if ← seesModuleName then return some (← anyIdent) else refused _ : Reader (Option Ident)).run
    (.ident name :: rest) = _
  exact run_bind_of_ok (run_seesModuleName name rest h)

/-- No name follows where no separator stands. -/
theorem run_furtherName_none (tokens : List Token) (h : startsWith [':', ':'] tokens = false) :
    furtherName.run tokens = .ok (none, tokens) := by
  have hsees : (sees "::").run tokens = .ok (false, tokens) := by
    rw [← h]
    rfl
  exact run_bind_of_ok hsees

theorem namesModule_of_run_furtherName (tokens : List Token) (name : Ident) (later : List Token)
    (h : furtherName.run tokens = .ok (some name, later)) : name.NamesModule := by
  obtain ⟨seen, before, -, h⟩ := (run_bind_eq_ok_iff _ _ _ _ _).1 h
  cases seen with
  | false => cases h
  | true =>
    obtain ⟨_, inner, -, h⟩ := (run_bind_eq_ok_iff _ _ _ _ _).1 h
    obtain ⟨allowed, same, hallowed, h⟩ := (run_bind_eq_ok_iff _ _ _ _ _).1 h
    cases allowed with
    | false => cases h
    | true =>
      obtain ⟨ident, rest, hident, h⟩ := (run_bind_eq_ok_iff _ _ _ _ _).1 h
      obtain ⟨hsame, -⟩ := Prod.mk.inj (Except.ok.inj h)
      obtain rfl := Option.some.inj hsame
      exact namesModule_of_run_seesModuleName inner same ident rest hallowed hident

theorem namesModule_of_run_ident (tokens rest : List Token) (name : Ident) (h : ident.run tokens = .ok (name, rest)) :
    name.NamesModule := by
  by_cases hword : ∃ found later, tokens = .ident found :: later
  · obtain ⟨found, later, rfl⟩ := hword
    rw [run_ident_cons] at h
    split at h
    · obtain ⟨rfl, -⟩ := Prod.mk.inj (Except.ok.inj h)
      exact Bool.or_eq_true_iff.2 (.inl ‹_›)
    · cases h
  · rw [run_ident_of_ne tokens fun found later htokens => hword ⟨found, later, htokens⟩] at h
    cases h

/-- The path of these names. -/
def moduleOf (leading : Bool) (names : List Ident) : Path :=
  ⟨leading, names.map fun name => ⟨name, none⟩⟩

/-- Reads the names after the first one. -/
def furtherNames (leading : Bool) (first : Ident) : Reader Path := do
  let names ← many furtherName
  return moduleOf leading (first :: names)

theorem modulePath_eq : modulePath = (do
    let separator ← operator? "::"
    if ← seesModuleName then
      let first ← anyIdent
      furtherNames (!separator.isEmpty) first
    else
      let first ← ident
      furtherNames (!separator.isEmpty) first) := rfl

/-- What reads as a path without arguments is a path of names of modules. -/
theorem exists_moduleOf_of_run (tokens rest : List Token) (path : Path) (h : modulePath.run tokens = .ok (path, rest)) :
    ∃ leading first names, path = moduleOf leading (first :: names) ∧ ∀ name ∈ first :: names, name.NamesModule := by
  rw [modulePath_eq] at h
  obtain ⟨separator, later, -, h⟩ := (run_bind_eq_ok_iff _ _ _ _ _).1 h
  obtain ⟨allowed, same, hallowed, h⟩ := (run_bind_eq_ok_iff _ _ _ _ _).1 h
  obtain ⟨first, after, hfirst, h⟩ : ∃ first after, first.NamesModule ∧
      (furtherNames (!separator.isEmpty) first).run after = .ok (path, rest) := by
    cases allowed with
    | true =>
      obtain ⟨first, after, hfirst, h⟩ := (run_bind_eq_ok_iff _ _ _ _ _).1 h
      exact ⟨first, after, namesModule_of_run_seesModuleName later same first after hallowed hfirst, h⟩
    | false =>
      obtain ⟨first, after, hfirst, h⟩ := (run_bind_eq_ok_iff _ _ _ _ _).1 h
      exact ⟨first, after, namesModule_of_run_ident same after first hfirst, h⟩
  obtain ⟨names, final, hnames, h⟩ := (run_bind_eq_ok_iff _ _ _ _ _).1 h
  obtain ⟨rfl, -⟩ := Prod.mk.inj (Except.ok.inj h)
  refine ⟨_, first, names, rfl, ?_⟩
  intro name hname
  rcases List.mem_cons.1 hname with rfl | hname
  · exact hfirst
  · exact forall_of_run_many namesModule_of_run_furtherName hnames name hname

/-- The tokens of the names after the first one. -/
def furtherTokens (names : List Ident) : List Token :=
  names.flatMap fun name => Token.pathSeparator ++ [.ident name]

theorem furtherTokens_cons (name : Ident) (names : List Ident) :
    furtherTokens (name :: names) = Token.pathSeparator ++ .ident name :: furtherTokens names := rfl

theorem moduleOf_tokens (leading : Bool) (first : Ident) (names : List Ident) :
    (moduleOf leading (first :: names)).tokens =
      (if leading then Token.pathSeparator else []) ++ .ident first :: furtherTokens names := by
  have hjoin : ∀ (name : Ident) (later : List Ident),
      joinSegments ((name :: later).map fun name => PathSegment.tokens ⟨name, none⟩) =
        .ident name :: furtherTokens later := by
    intro name later
    induction later generalizing name with
    | nil => rfl
    | cons next later ih =>
      change PathSegment.tokens ⟨name, none⟩ ++ Token.pathSeparator ++ joinSegments ((next :: later).map _) = _
      rw [ih next]
      rfl
  rw [Path.tokens, moduleOf, List.map_map]
  exact congrArg _ (hjoin first names)

theorem repeats_furtherName (names : List Ident) (rest : List Token) (h : ∀ name ∈ names, name.NamesModule)
    (hrest : startsWith [':', ':'] rest = false) : Repeats furtherName (furtherTokens names ++ rest) names rest := by
  induction names with
  | nil => exact .stop (run_furtherName_none rest hrest)
  | cons name names ih =>
    have hname := run_furtherName name (furtherTokens names ++ rest) (h name List.mem_cons_self)
    refine .step hname ?_ (ih fun other hother => h other (List.mem_cons_of_mem _ hother))
    simp only [furtherTokens_cons, List.length_append, List.length_cons]
    omega

/-- A path of names of modules is read from its own tokens. -/
theorem run_modulePath (leading : Bool) (first : Ident) (names : List Ident) (rest : List Token)
    (h : ∀ name ∈ first :: names, name.NamesModule) (hrest : startsWith [':', ':'] rest = false) :
    modulePath.run ((moduleOf leading (first :: names)).tokens ++ rest) =
      .ok (moduleOf leading (first :: names), rest) := by
  have hnames := repeats_furtherName names rest (fun name hname => h name (List.mem_cons_of_mem _ hname)) hrest
  have hfirst := run_seesModuleName first (furtherTokens names ++ rest) (h first List.mem_cons_self)
  have hfurther : (furtherNames leading first).run (furtherTokens names ++ rest) =
      .ok (moduleOf leading (first :: names), rest) := run_bind_of_ok (run_many hnames)
  have hleading : (operator? "::").run ((if leading then Token.pathSeparator else []) ++ .ident first ::
      furtherTokens names ++ rest) =
      .ok (if leading then Token.pathSeparator else [], .ident first :: (furtherTokens names ++ rest)) := by
    cases leading <;> rfl
  rw [moduleOf_tokens, modulePath_eq]
  refine (run_bind_of_ok hleading).trans ((run_bind_of_ok hfirst).trans ?_)
  cases leading <;> exact hfurther

end Reader

/-! ## Visibilities -/

/-- The visibility can be written: what it is restricted to is a module. -/
inductive Visibility.IsWritable : Visibility → Prop
  | inherited : IsWritable .inherited
  | pub : IsWritable .pub
  | word {name : String} : name ∈ ["crate", "self", "super"] → IsWritable (.restricted false (.ofIdent (.plain name)))
  | path {leading : Bool} {first : Ident} {names : List Ident} : (∀ name ∈ first :: names, name.NamesModule) →
    IsWritable (.restricted true (Reader.moduleOf leading (first :: names)))

namespace Reader

theorem isWritable_of_run (tokens rest : List Token) (visible : Visibility)
    (h : visibility.run tokens = .ok (visible, rest)) : visible.IsWritable := by
  obtain ⟨seen, same, -, h⟩ := (run_bind_eq_ok_iff _ _ _ _ _).1 h
  cases seen with
  | false =>
    obtain ⟨rfl, -⟩ := Prod.mk.inj (Except.ok.inj h)
    exact .inherited
  | true =>
    obtain ⟨_, after, -, h⟩ := (run_bind_eq_ok_iff _ _ _ _ _).1 h
    obtain ⟨found, final, -, h⟩ := (run_bind_eq_ok_iff _ _ _ _ _).1 h
    split at h
    · split at h
      · split at h
        · rename_i hword
          obtain ⟨rfl, -⟩ := Prod.mk.inj (Except.ok.inj h)
          obtain ⟨name, hname, hsame⟩ := List.any_eq_true.1 hword
          rw [beq_iff_eq.1 hsame]
          exact .word hname
        · obtain ⟨rfl, -⟩ := Prod.mk.inj (Except.ok.inj h)
          exact .pub
      · split at h
        · split at h
          · rename_i path hpath
            obtain ⟨rfl, -⟩ := Prod.mk.inj (Except.ok.inj h)
            obtain ⟨leading, first, names, rfl, hnames⟩ :=
              exists_moduleOf_of_run _ _ path ((all_eq_ok_iff _ _ _).1 hpath)
            exact .path hnames
          · cases h
        · obtain ⟨rfl, -⟩ := Prod.mk.inj (Except.ok.inj h)
          exact .pub
      · obtain ⟨rfl, -⟩ := Prod.mk.inj (Except.ok.inj h)
        exact .pub
    · obtain ⟨rfl, -⟩ := Prod.mk.inj (Except.ok.inj h)
      exact .pub

theorem isWritable_of_parse (text : String) (visible : Visibility) (h : Visibility.parse text = .ok visible) :
    visible.IsWritable := by
  unfold Visibility.parse parse at h
  split at h
  · cases h
  · exact isWritable_of_run _ _ visible ((all_eq_ok_iff _ _ _).1 h)

theorem run_visibility_in (inside : List Token) (path : Path) (rest : List Token) (hne : inside ≠ [])
    (h : modulePath.all inside = .ok path) :
    visibility.run (Token.word "pub" :: Token.parens (Token.word "in" :: inside) :: rest) =
      .ok (.restricted true path, rest) := by
  obtain ⟨first, later, rfl⟩ := List.exists_cons_of_ne_nil hne
  have hsees : (seesWord "pub").run (Token.word "pub" :: Token.parens (Token.word "in" :: first :: later) :: rest) =
      .ok (true, Token.word "pub" :: Token.parens (Token.word "in" :: first :: later) :: rest) := rfl
  have hkeyword : (keyword "pub").run (Token.word "pub" :: Token.parens (Token.word "in" :: first :: later) :: rest) =
      .ok ([Token.word "pub"], Token.parens (Token.word "in" :: first :: later) :: rest) := rfl
  have hin : (Token.ident (.plain "in")).isWord "in" = true := rfl
  rw [visibility, run_bind_of_ok hsees, if_pos rfl, run_bind_of_ok hkeyword, run_get_bind]
  simp only [Token.parens, Token.word]
  rw [if_pos hin, h]
  rfl

/-- In front of a struct, a visibility that can be written is read from its own tokens. -/
theorem run_visibility (visible : Visibility) (h : visible.IsWritable) (rest : List Token) :
    visibility.run (visible.tokens ++ Token.word "struct" :: rest) = .ok (visible, Token.word "struct" :: rest) := by
  cases h with
  | inherited => rfl
  | pub => rfl
  | word hname =>
    simp only [List.mem_cons, List.not_mem_nil, or_false] at hname
    rcases hname with rfl | rfl | rfl <;> rfl
  | @path leading first names hnames =>
    have hpath := run_modulePath leading first names [] hnames rfl
    rw [List.append_nil] at hpath
    exact run_visibility_in _ _ _ (by simp [moduleOf_tokens]) ((all_eq_ok_iff _ _ _).2 hpath)

end Reader
end TypedStatement.Source
