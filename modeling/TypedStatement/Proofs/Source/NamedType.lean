import TypedStatement.Proofs.Source.Lookahead

/-!
# Types that are names

A type of the grammar has the form of a path only if it was read as one, with nothing else around it.  So a type that is
a single identifier was written as that, and one that is an identifier applied to another was written with these two, angle
brackets and perhaps separators and a comma (`symbols_of_run_applied`).  Both are also read from what is written so
(`run_name`, `exists_run_applied`).
-/

namespace TypedStatement.Source
set_option autoImplicit false

/-! ## Symbols -/

/-- A token in any spacing: a separator of paths is one symbol, and what stands in brackets does not count. -/
inductive Symbol where
  | word (ident : Ident)
  | literal (text : String)
  | separator
  | mark (c : Char)
  | group (delimiter : Delimiter)
  deriving DecidableEq

def symbols : List Token → List Symbol
  | [] => []
  | .ident name :: rest => .word name :: symbols rest
  | .literal text :: rest => .literal text :: symbols rest
  | .group delimiter _ :: rest => .group delimiter :: symbols rest
  | .punct ':' .joint :: .punct ':' _ :: rest => .separator :: symbols rest
  | .punct c _ :: rest => .mark c :: symbols rest

theorem symbols_mark (c : Char) (spacing : Spacing) (rest : List Token) (hc : c ≠ ':') :
    symbols (.punct c spacing :: rest) = .mark c :: symbols rest := by
  rw [symbols]
  exact fun _ _ _ hcolon _ => hc hcolon

/-- The tokens begin with what their first symbol says. -/
theorem symbols_cases (tokens : List Token) :
    match symbols tokens with
    | [] => tokens = []
    | .word name :: later => ∃ rest, tokens = .ident name :: rest ∧ symbols rest = later
    | .separator :: later =>
      ∃ spacing rest, tokens = .punct ':' .joint :: .punct ':' spacing :: rest ∧ symbols rest = later
    | .mark c :: later => ∃ spacing rest, tokens = .punct c spacing :: rest ∧ symbols rest = later
    | .literal _ :: _ | .group _ :: _ => True := by
  fun_cases symbols tokens <;> simp_all

theorem eq_nil_of_symbols (tokens : List Token) (h : symbols tokens = []) : tokens = [] := by
  have hcases := symbols_cases tokens
  rwa [h] at hcases

theorem eq_cons_of_symbols_word (tokens : List Token) (name : Ident) (later : List Symbol)
    (h : symbols tokens = .word name :: later) : ∃ rest, tokens = .ident name :: rest ∧ symbols rest = later := by
  have hcases := symbols_cases tokens
  rwa [h] at hcases

theorem eq_cons_of_symbols_separator (tokens : List Token) (later : List Symbol)
    (h : symbols tokens = .separator :: later) :
    ∃ spacing rest, tokens = .punct ':' .joint :: .punct ':' spacing :: rest ∧ symbols rest = later := by
  have hcases := symbols_cases tokens
  rwa [h] at hcases

theorem eq_cons_of_symbols_mark (tokens : List Token) (c : Char) (later : List Symbol)
    (h : symbols tokens = .mark c :: later) :
    ∃ spacing rest, tokens = .punct c spacing :: rest ∧ symbols rest = later := by
  have hcases := symbols_cases tokens
  rwa [h] at hcases

/-- The symbol, if it is present. -/
def Symbol.when (symbol : Symbol) (present : Bool) : List Symbol :=
  if present then [symbol] else []

namespace Grammar

open Reader

/-! ## Forms of types -/

/-- What was read has another form than a path. -/
def IsForm (reading : Reading) : Prop :=
  ∃ name, reading.shape = .form name

theorem answers_parenthesizedType (table : Table) (plus : Bool) : Answers (parenthesizedType table plus) IsForm := by
  refine answers_bind _ _ ?_
  rintro ⟨content, single⟩
  refine answers_bind _ _ fun seen => answers_ite _ _ _ ?_ ?_
  · exact answers_bind _ _ fun rest => answers_pure _ ⟨_, rfl⟩
  · exact answers_pure _ ⟨_, rfl⟩

theorem eq_of_run_binder_nil (tokens rest : List Token) (h : binder.run tokens = .ok ([], rest)) : rest = tokens := by
  unfold binder at h
  obtain ⟨seen, same, hseen, h⟩ := (run_bind_eq_ok_iff _ _ _ _ _).1 h
  obtain ⟨-, rfl⟩ := Prod.mk.inj (Except.ok.inj hseen)
  rcases run_ite h with ⟨-, h⟩ | ⟨-, h⟩
  · obtain ⟨head, later, hhead, h⟩ := (run_bind_eq_ok_iff _ _ _ _ _).1 h
    obtain ⟨entries, last, -, h⟩ := (run_bind_eq_ok_iff _ _ _ _ _).1 h
    exact absurd (congrArg Prod.fst (Except.ok.inj h)) (by simp)
  · exact (congrArg Prod.snd (Except.ok.inj h)).symm

section
variable (table : Table) {plus : Bool} {tokens rest : List Token} {reading : Reading}

/-- A type in angle brackets is another form, and without them there is a path. -/
theorem run_qualifiedPath_cases {inExpression : Bool}
    (h : (qualifiedPath table inExpression).run tokens = .ok (reading, rest)) :
    IsForm reading ∨ ∃ path, reading.shape = .path path ∧
      (pathWith table (bound table) inExpression).run tokens = .ok (path, rest) := by
  unfold qualifiedPath at h
  obtain ⟨_, h⟩ := (looks_sees _).run_bind h
  rcases run_ite h with ⟨-, h⟩ | ⟨-, h⟩
  · refine .inl ((?_ : Answers _ IsForm) tokens reading rest h)
    repeat' first
      | exact answers_pure _ ⟨_, rfl⟩
      | refine answers_ite _ _ _ ?_ ?_
      | refine answers_bind _ _ fun _ => ?_
  · obtain ⟨path, between, hpath, h⟩ := (run_bind_eq_ok_iff _ _ _ _ _).1 h
    obtain ⟨rfl, rfl⟩ := Prod.mk.inj (Except.ok.inj h)
    exact .inr ⟨path, rfl, hpath⟩

/-- A path stays one only if nothing is added to it. -/
theorem run_pathType_cases {lifetimes : List Token}
    (h : (pathType table plus lifetimes).run tokens = .ok (reading, rest)) :
    IsForm reading ∨ lifetimes = [] ∧ ∃ path, reading.shape = .path path ∧
      (pathWith table (bound table) false).run tokens = .ok (path, rest) := by
  unfold pathType at h
  obtain ⟨found, later, hfound, h⟩ := (run_bind_eq_ok_iff _ _ _ _ _).1 h
  rcases run_qualifiedPath_cases table hfound with ⟨name, hname⟩ | ⟨path, hpath, hrun⟩
  · rw [hname] at h
    obtain ⟨rfl, -⟩ := Prod.mk.inj (Except.ok.inj h)
    exact .inl ⟨name, hname⟩
  rw [hpath] at h
  dsimp only at h
  obtain ⟨_, h⟩ := looks_seesParenthesized.run_bind h
  rcases run_ite h with ⟨-, h⟩ | ⟨-, h⟩
  · -- arguments in round brackets
    refine .inl ((?_ : Answers _ IsForm) later reading rest h)
    refine answers_bind _ _ fun _ => ?_
    rw [pure_bind]
    repeat' first
      | exact answers_pure _ ⟨_, rfl⟩
      | refine answers_ite _ _ _ ?_ ?_
      | refine answers_bind _ _ fun _ => ?_
  rw [pure_bind] at h
  obtain ⟨_, h⟩ := (looks_sees _).run_bind h
  obtain ⟨_, h⟩ := (looks_sees _).run_bind h
  rcases run_ite h with ⟨-, h⟩ | ⟨-, h⟩
  · -- a macro
    refine .inl ((?_ : Answers _ IsForm) later reading rest h)
    exact answers_bind _ _ fun _ => answers_bind _ _ fun _ => answers_pure _ ⟨_, rfl⟩
  obtain ⟨_, h⟩ := (looks_sees _).run_bind h
  rcases run_ite h with ⟨-, h⟩ | ⟨hplain, h⟩
  · -- bounds
    refine .inl ((?_ : Answers _ IsForm) later reading rest h)
    exact answers_bind _ _ fun _ => answers_pure _ ⟨_, rfl⟩
  · obtain ⟨rfl, rfl⟩ := Prod.mk.inj (Except.ok.inj h)
    rw [Bool.or_eq_true_iff, not_or, Bool.not_eq_true', Bool.not_eq_false, List.isEmpty_iff] at hplain
    exact .inr ⟨hplain.1, path, hpath, hrun⟩

/-- Only the rule for paths answers a path. -/
theorem run_typeRule_cases {attributes : Reader (List Token)}
    (h : (typeRule table attributes plus).run tokens = .ok (reading, rest)) :
    IsForm reading ∨ ∃ lifetimes later, binder.run tokens = .ok (lifetimes, later) ∧
      (pathType table plus lifetimes).run later = .ok (reading, rest) := by
  unfold typeRule at h
  obtain ⟨lifetimes, later, hbinder, h⟩ := (run_bind_eq_ok_iff _ _ _ _ _).1 h
  obtain ⟨_, h⟩ := (looks_next _).run_bind h
  rcases run_ite h with ⟨-, h⟩ | ⟨-, h⟩
  · exact .inl (answers_parenthesizedType table plus later reading rest h)
  obtain ⟨_, h⟩ := (looks_next _).run_bind h
  rcases run_ite h with ⟨-, h⟩ | ⟨-, h⟩
  · refine .inl ((?_ : Answers _ IsForm) later reading rest h)
    exact answers_bind _ _ fun _ => answers_pure _ ⟨_, rfl⟩
  obtain ⟨_, h⟩ := (looks_next _).run_bind h
  obtain ⟨_, h⟩ := (looks_sees _).run_bind h
  obtain ⟨_, h⟩ := (looks_sees _).run_bind h
  rcases run_ite h with ⟨-, h⟩ | ⟨-, h⟩
  · exact .inr ⟨lifetimes, later, hbinder, h⟩
  -- all rules after that for paths end with a form of their own
  refine .inl ((?_ : Answers _ IsForm) later reading rest h)
  repeat' first
    | exact answers_pure _ ⟨_, rfl⟩
    | exact answers_expected _
    | refine answers_ite _ _ _ ?_ ?_
    | refine answers_bind _ _ fun _ => ?_

theorem run_pathWith_of_run_typeRule {attributes : Reader (List Token)} {path : Path}
    (h : (typeRule table attributes plus).run tokens = .ok (reading, rest)) (hpath : reading.shape = .path path) :
    (pathWith table (bound table) false).run tokens = .ok (path, rest) := by
  have hnot : ¬ IsForm reading := by
    rintro ⟨name, hname⟩
    exact absurd (hpath.symm.trans hname) (by simp)
  obtain ⟨lifetimes, later, hbinder, htype⟩ := (run_typeRule_cases table h).resolve_left hnot
  obtain ⟨rfl, found, hfound, hrun⟩ := (run_pathType_cases table htype).resolve_left hnot
  rw [eq_of_run_binder_nil tokens later hbinder] at hrun
  rw [hpath] at hfound
  rw [Shape.path.inj hfound]
  exact hrun

end

/-! ## What was read as a name -/

/-- Reads what follows the name of a segment. -/
def segmentAfter (table : Table) (bound : Reader (List Token)) (inExpression : Bool) (name : Ident) :
    Reader PathSegment := do
  let direct := !inExpression && (← sees "<") && !(← sees "<=") && !(← sees "<<=")
  if direct || ((← sees "::") && (← third (isMark '<'))) then
    let turbofish := !(← operator? "::").isEmpty
    let entries ← angleEntries (genericArgument table bound)
    return ⟨name, some ⟨turbofish, Entry.lifetimesFirst entries, Entry.soleName entries⟩⟩
  return ⟨name, none⟩

section
variable (table : Table) (bound : Reader (List Token)) (inExpression : Bool)

theorem pathSegment_eq : pathSegment table bound inExpression = (do
    if ← next fun token => ["super", "self", "crate", "try"].any (token.isWord ·) then
      return ⟨← anyIdent, none⟩
    if ← seesWord "Self" then
      let name ← anyIdent
      segmentAfter table bound inExpression name
    else
      let name ← ident
      segmentAfter table bound inExpression name) := rfl

theorem exists_separator_of_startsWith (tokens : List Token) (h : startsWith [':', ':'] tokens = true) :
    ∃ spacing rest, tokens = .punct ':' .joint :: .punct ':' spacing :: rest := by
  match tokens, h with
  | .punct c .joint :: later, h =>
    change (c == ':' && startsWith [':'] later) = true at h
    obtain ⟨hcolon, hlater⟩ := Bool.and_eq_true_iff.1 h
    obtain ⟨spacing, rest, rfl⟩ := exists_punct_of_startsWith ':' later hlater
    exact ⟨spacing, rest, by rw [beq_iff_eq.1 hcolon]⟩

theorem run_separator_cases {tokens rest separator : List Token}
    (h : (operator? "::").run tokens = .ok (separator, rest)) :
    separator = [] ∧ rest = tokens ∨ separator = Token.pathSeparator ∧
      ∃ spacing, tokens = .punct ':' .joint :: .punct ':' spacing :: rest := by
  unfold operator? at h
  obtain ⟨_, h⟩ := (looks_sees _).run_bind h
  rcases run_ite h with ⟨-, h⟩ | ⟨-, h⟩
  · obtain ⟨hstarts, rfl⟩ := startsWith_of_run_operator h
    rw [run_operator "::" tokens hstarts] at h
    obtain ⟨spacing, rest, rfl⟩ := exists_separator_of_startsWith tokens hstarts
    exact .inr ⟨(congrArg Prod.fst (Except.ok.inj h)).symm, spacing, rfl⟩
  · obtain ⟨rfl, rfl⟩ := Prod.mk.inj (Except.ok.inj h)
    exact .inl ⟨rfl, rfl⟩

/-- A separator is one symbol, if it is there. -/
theorem symbols_of_run_separator {tokens rest separator : List Token}
    (h : (operator? "::").run tokens = .ok (separator, rest)) :
    symbols tokens = Symbol.separator.when (!separator.isEmpty) ++ symbols rest := by
  rcases run_separator_cases h with ⟨rfl, rfl⟩ | ⟨rfl, spacing, rfl⟩
  · rfl
  · rfl

variable {tokens rest : List Token} {segment : PathSegment}

theorem run_pathSegment_cases (h : (pathSegment table bound inExpression).run tokens = .ok (segment, rest)) :
    ∃ later, tokens = .ident segment.ident :: later ∧
      (segment.arguments = none ∧ rest = later ∨
       ∃ separator between entries, (operator? "::").run later = .ok (separator, between) ∧
         (angleEntries (genericArgument table bound)).run between = .ok (entries, rest) ∧
         segment.arguments = some ⟨!separator.isEmpty, Entry.lifetimesFirst entries, Entry.soleName entries⟩) := by
  rw [pathSegment_eq] at h
  obtain ⟨_, h⟩ := (looks_next _).run_bind h
  rcases run_ite h with ⟨-, h⟩ | ⟨-, h⟩
  · obtain ⟨name, later, hname, h⟩ := (run_bind_eq_ok_iff _ _ _ _ _).1 h
    obtain ⟨rfl, rfl⟩ := Prod.mk.inj (Except.ok.inj h)
    exact ⟨later, eq_cons_of_run_anyIdent tokens later name hname, .inl ⟨rfl, rfl⟩⟩
  -- `Self` is taken like a name, only without the test for keywords
  obtain ⟨name, later, rfl, hafter⟩ : ∃ name later, tokens = .ident name :: later ∧
      (segmentAfter table bound inExpression name).run later = .ok (segment, rest) := by
    obtain ⟨_, h⟩ := (looks_next _).run_bind h
    rcases run_ite h with ⟨-, h⟩ | ⟨-, h⟩
    · obtain ⟨name, later, hname, h⟩ := (run_bind_eq_ok_iff _ _ _ _ _).1 h
      exact ⟨name, later, eq_cons_of_run_anyIdent tokens later name hname, h⟩
    · obtain ⟨name, later, hname, h⟩ := (run_bind_eq_ok_iff _ _ _ _ _).1 h
      exact ⟨name, later, eq_cons_of_run_ident tokens later name hname, h⟩
  unfold segmentAfter at hafter
  obtain ⟨_, hafter⟩ := (looks_sees _).run_bind hafter
  obtain ⟨_, hafter⟩ := (looks_sees _).run_bind hafter
  obtain ⟨_, hafter⟩ := (looks_sees _).run_bind hafter
  obtain ⟨_, hafter⟩ := (looks_sees _).run_bind hafter
  obtain ⟨_, hafter⟩ := (looks_third _).run_bind hafter
  rcases run_ite hafter with ⟨-, hafter⟩ | ⟨-, hafter⟩
  · obtain ⟨separator, between, hseparator, hafter⟩ := (run_bind_eq_ok_iff _ _ _ _ _).1 hafter
    obtain ⟨entries, final, hentries, hafter⟩ := (run_bind_eq_ok_iff _ _ _ _ _).1 hafter
    obtain ⟨rfl, rfl⟩ := Prod.mk.inj (Except.ok.inj hafter)
    exact ⟨later, rfl, .inr ⟨separator, between, entries, hseparator, hentries, rfl⟩⟩
  · obtain ⟨rfl, rfl⟩ := Prod.mk.inj (Except.ok.inj hafter)
    exact ⟨later, rfl, .inl ⟨rfl, rfl⟩⟩

theorem eq_of_run_pathRest_nil (h : (pathRest table bound inExpression).run tokens = .ok ([], rest)) : rest = tokens := by
  refine run_many_nil ?_ h
  intro tokens rest hone
  obtain ⟨_, hone⟩ := (looks_sees _).run_bind hone
  obtain ⟨_, hone⟩ := (looks_third _).run_bind hone
  rcases run_ite hone with ⟨-, hone⟩ | ⟨-, hone⟩
  · obtain ⟨_, _, -, hone⟩ := (run_bind_eq_ok_iff _ _ _ _ _).1 hone
    obtain ⟨_, _, -, hone⟩ := (run_bind_eq_ok_iff _ _ _ _ _).1 hone
    exact absurd (congrArg Prod.fst (Except.ok.inj hone)) (by simp)
  · exact (congrArg Prod.snd (Except.ok.inj hone)).symm

/-- A path of one segment is an optional separator and the segment. -/
theorem run_pathWith_single {leading : Bool}
    (h : (pathWith table bound inExpression).run tokens = .ok (⟨leading, [segment]⟩, rest)) :
    ∃ separator later, (operator? "::").run tokens = .ok (separator, later) ∧ leading = !separator.isEmpty ∧
      (pathSegment table bound inExpression).run later = .ok (segment, rest) := by
  unfold pathWith at h
  obtain ⟨separator, later, hseparator, h⟩ := (run_bind_eq_ok_iff _ _ _ _ _).1 h
  obtain ⟨first, between, hfirst, h⟩ := (run_bind_eq_ok_iff _ _ _ _ _).1 h
  obtain ⟨others, final, hothers, h⟩ := (run_bind_eq_ok_iff _ _ _ _ _).1 h
  obtain ⟨hpath, rfl⟩ := Prod.mk.inj (Except.ok.inj h)
  obtain ⟨rfl, hsegments⟩ := Path.mk.inj hpath
  obtain ⟨rfl, rfl⟩ := List.cons.inj hsegments
  rw [eq_of_run_pathRest_nil table bound inExpression hothers]
  exact ⟨separator, later, hseparator, rfl, hfirst⟩

end

theorem eq_of_ident? (path : Path) (name : Ident) (h : path.ident? = some name) : path = .ofIdent name := by
  obtain ⟨leading, segments⟩ := path
  unfold Path.ident? at h
  split at h
  · rename_i hleading hsegments
    obtain rfl := Option.some.inj h
    exact congr (congrArg Path.mk hleading) hsegments
  · exact absurd h (by simp)

section
variable {table : Table} {plus : Bool} {tokens rest : List Token} {reading : Reading}
  {attributes : Reader (List Token)}

/-- What was read as a type that is one identifier is this identifier. -/
theorem eq_cons_of_run_name {name : Ident} (h : (typeRule table attributes plus).run tokens = .ok (reading, rest))
    (hname : reading.shape.name? = some name) : tokens = .ident name :: rest := by
  cases hshape : reading.shape with
  | path path =>
    rw [hshape] at hname
    have hpath := run_pathWith_of_run_typeRule table h hshape
    rw [eq_of_ident? path name hname] at hpath
    obtain ⟨separator, later, hseparator, hleading, hsegment⟩ := run_pathWith_single table _ _ hpath
    obtain ⟨after, rfl, ⟨-, rfl⟩ | ⟨_, _, _, -, -, harguments⟩⟩ := run_pathSegment_cases table _ _ hsegment
    · rcases run_separator_cases hseparator with ⟨-, rfl⟩ | ⟨rfl, -⟩
      · rfl
      · exact absurd hleading (by decide)
    · exact absurd harguments (by simp)
  | literal text => exact absurd hname (by simp [hshape, Shape.name?])
  | macroCall braced => exact absurd hname (by simp [hshape, Shape.name?])
  | form other => exact absurd hname (by simp [hshape, Shape.name?])

/-- An argument in angle brackets that is a name was read by the rule for types. -/
theorem run_genericArgument_name {bound : Reader (List Token)} {entry : Entry} {name : Ident}
    (h : (genericArgument table bound).run tokens = .ok (entry, rest)) (hname : entry.name = some name) :
    ∃ reading, (table (.type true)).run tokens = .ok (reading, rest) ∧ reading.shape.name? = some name := by
  unfold genericArgument at h
  rw [run_get_bind] at h
  rcases run_ite h with ⟨-, h⟩ | ⟨-, h⟩
  · obtain ⟨_, _, -, h⟩ := (run_bind_eq_ok_iff _ _ _ _ _).1 h
    obtain ⟨rfl, -⟩ := Prod.mk.inj (Except.ok.inj h)
    exact absurd hname (by simp)
  obtain ⟨_, h⟩ := (looks_next _).run_bind h
  rcases run_ite h with ⟨-, h⟩ | ⟨-, h⟩
  · obtain ⟨_, _, -, h⟩ := (run_bind_eq_ok_iff _ _ _ _ _).1 h
    obtain ⟨rfl, -⟩ := Prod.mk.inj (Except.ok.inj h)
    exact absurd hname (by simp)
  obtain ⟨reading, later, hreading, h⟩ := (run_bind_eq_ok_iff _ _ _ _ _).1 h
  -- an equals sign or a colon after the type makes another argument of it
  obtain ⟨_, h⟩ := (looks_sees _).run_bind h
  rcases run_ite h with ⟨-, h⟩ | ⟨-, h⟩
  · have hnone : entry.name = none := by
      refine (?_ : Answers _ fun entry : Entry => entry.name = none) later entry rest h
      repeat' first
        | exact answers_pure _ rfl
        | refine answers_ite _ _ _ ?_ ?_
        | refine answers_bind _ _ fun _ => ?_
    exact absurd (hname.symm.trans hnone) (by simp)
  obtain ⟨_, h⟩ := (looks_sees _).run_bind h
  rcases run_ite h with ⟨-, h⟩ | ⟨-, h⟩
  · have hnone : entry.name = none := by
      refine (?_ : Answers _ fun entry : Entry => entry.name = none) later entry rest h
      exact answers_bind _ _ fun _ => answers_bind _ _ fun _ => answers_pure _ rfl
    exact absurd (hname.symm.trans hnone) (by simp)
  · obtain ⟨rfl, rfl⟩ := Prod.mk.inj (Except.ok.inj h)
    exact ⟨reading, hreading, hname⟩

theorem eq_of_run_angleEntry_none {one : Reader Entry} (h : (angleEntry one).run tokens = .ok (none, rest)) :
    rest = tokens := by
  unfold angleEntry at h
  obtain ⟨_, h⟩ := (looks_sees _).run_bind h
  rcases run_ite h with ⟨-, h⟩ | ⟨-, h⟩
  · exact (congrArg Prod.snd (Except.ok.inj h)).symm
  have hsome : (none : Option Entry).isSome = true := by
    refine (?_ : Answers _ fun answer : Option Entry => answer.isSome = true) tokens none rest h
    repeat' first
      | exact answers_pure _ rfl
      | refine answers_ite _ _ _ ?_ ?_
      | refine answers_bind _ _ fun _ => ?_
  exact absurd hsome (by simp)

/-- An entry is what was read and perhaps a comma. -/
theorem run_angleEntry_some {one : Reader Entry} {found : Entry}
    (h : (angleEntry one).run tokens = .ok (some found, rest)) :
    ∃ entry later comma, one.run tokens = .ok (entry, later) ∧ found.name = entry.name ∧
      symbols later = (Symbol.mark ',').when comma ++ symbols rest := by
  unfold angleEntry at h
  obtain ⟨_, h⟩ := (looks_sees _).run_bind h
  rcases run_ite h with ⟨-, h⟩ | ⟨-, h⟩
  · exact absurd (congrArg Prod.fst (Except.ok.inj h)) (by simp)
  obtain ⟨entry, later, hentry, h⟩ := (run_bind_eq_ok_iff _ _ _ _ _).1 h
  obtain ⟨_, h⟩ := (looks_sees _).run_bind h
  rcases run_ite h with ⟨-, h⟩ | ⟨-, h⟩
  · obtain ⟨hsame, rfl⟩ := Prod.mk.inj (Except.ok.inj h)
    exact ⟨entry, later, false, hentry, by rw [Option.some.inj hsame], rfl⟩
  · obtain ⟨_, after, hcomma, h⟩ := (run_bind_eq_ok_iff _ _ _ _ _).1 h
    obtain ⟨hsame, rfl⟩ := Prod.mk.inj (Except.ok.inj h)
    obtain ⟨spacing, rfl⟩ := exists_punct_of_run_operator ',' rfl hcomma
    refine ⟨entry, _, true, hentry, by rw [← Option.some.inj hsame], ?_⟩
    exact symbols_mark ',' spacing after (by decide)

/-- A list in angle brackets that has one name. -/
theorem run_angleEntries_sole {one : Reader Entry} {entries : List Entry} {name : Ident}
    (h : (angleEntries one).run tokens = .ok (entries, rest)) (hname : Entry.soleName entries = some name) :
    ∃ inside entry after comma, symbols tokens = .mark '<' :: symbols inside ∧ one.run inside = .ok (entry, after) ∧
      entry.name = some name ∧ symbols after = (Symbol.mark ',').when comma ++ .mark '>' :: symbols rest := by
  obtain ⟨found, rfl⟩ : ∃ found, entries = [found] := by
    unfold Entry.soleName at hname
    split at hname
    · exact ⟨_, rfl⟩
    · exact absurd hname (by simp)
  unfold angleEntries at h
  obtain ⟨_, inside, hopening, h⟩ := (run_bind_eq_ok_iff _ _ _ _ _).1 h
  obtain ⟨entries, between, hentries, h⟩ := (run_bind_eq_ok_iff _ _ _ _ _).1 h
  obtain ⟨_, final, hclosing, h⟩ := (run_bind_eq_ok_iff _ _ _ _ _).1 h
  obtain ⟨rfl, rfl⟩ := Prod.mk.inj (Except.ok.inj h)
  obtain ⟨opening, rfl⟩ := exists_punct_of_run_operator '<' rfl hopening
  obtain ⟨closing, rfl⟩ := exists_punct_of_run_operator '>' rfl hclosing
  have hone := run_many_singleton (fun _ _ => eq_of_run_angleEntry_none) hentries
  obtain ⟨entry, after, comma, hentry, hsame, hcomma⟩ := run_angleEntry_some hone
  rw [symbols_mark '>' closing final (by decide)] at hcomma
  exact ⟨inside, entry, after, comma, symbols_mark '<' opening inside (by decide), hentry, hsame.symm.trans hname, hcomma⟩

/-- A rule for types that answers a name has taken this name, at any depth. -/
theorem eq_cons_of_run_rules {depth : Nat} {name : Ident} (h : (rules depth (.type plus)).run tokens = .ok (reading, rest))
    (hname : reading.shape.name? = some name) : tokens = .ident name :: rest := by
  cases depth with
  | zero => cases h
  | succ depth => exact eq_cons_of_run_name h hname

/-- What was read as a name applied to a name, and nothing else, consists of the two names, angle brackets around the second,
perhaps separators in front of the first and after it, and perhaps a comma. -/
theorem symbols_of_run_applied {depth : Nat} {leading : Bool} {name argument : Ident} {arguments : GenericArguments}
    (h : (typeRule (rules depth) attributes plus).run tokens = .ok (reading, rest))
    (hshape : reading.shape = .path ⟨leading, [⟨name, some arguments⟩]⟩) (hargument : arguments.soleName = some argument) :
    ∃ turbofish trailing, symbols tokens = Symbol.separator.when leading ++ .word name ::
      (Symbol.separator.when turbofish ++ .mark '<' :: .word argument ::
        ((Symbol.mark ',').when trailing ++ .mark '>' :: symbols rest)) := by
  have hpath := run_pathWith_of_run_typeRule _ h hshape
  obtain ⟨separator, later, hseparator, rfl, hsegment⟩ := run_pathWith_single _ _ _ hpath
  obtain ⟨after, rfl, ⟨hnone, -⟩ | ⟨inner, between, entries, hinner, hentries, harguments⟩⟩ :=
    run_pathSegment_cases _ _ _ hsegment
  · exact absurd hnone (by simp)
  obtain rfl := Option.some.inj harguments
  obtain ⟨inside, entry, behind, trailing, hopening, hentry, hname, hclosing⟩ := run_angleEntries_sole hentries hargument
  obtain ⟨type, hreading, hfound⟩ := run_genericArgument_name hentry hname
  rw [eq_cons_of_run_rules hreading hfound] at hopening
  refine ⟨!inner.isEmpty, trailing, ?_⟩
  rw [symbols_of_run_separator hseparator, symbols, symbols_of_run_separator hinner, hopening, symbols, hclosing]

end

/-! ## What is read as a name -/

/-- A type ends here, because the fragment does or because of a comma or a closing angle bracket. -/
def EndsType (rest : List Token) : Prop :=
  rest = [] ∨ ∃ c spacing later, rest = .punct c spacing :: later ∧ c ∈ [',', '>']

theorem EndsType.startsWith {rest : List Token} (h : EndsType rest) (c : Char) (later : List Char)
    (hc : c ∉ [',', '>']) : startsWith (c :: later) rest = false := by
  rcases h with rfl | ⟨p, spacing, after, rfl, hp⟩
  · cases later <;> rfl
  · have hne : (p == c) = false := by
      rw [beq_eq_false_iff_ne]
      rintro rfl
      exact hc hp
    cases later with
    | nil => exact hne
    | cons d later =>
      cases spacing with
      | alone => rfl
      | joint =>
        change (p == c && Source.startsWith (d :: later) after) = false
        rw [hne, Bool.false_and]

theorem EndsType.isGroup {rest : List Token} (h : EndsType rest) (delimiter : Delimiter) :
    rest.head?.any (·.isGroup delimiter) = false := by
  rcases h with rfl | ⟨p, spacing, after, rfl, -⟩
  · rfl
  · rfl

theorem isWord_eq_false {name : Ident} (h : name.isUsable = true) (word : String) (hword : word ∈ keywords) :
    (Token.ident name).isWord word = false := by
  change (name == .plain word) = false
  rw [beq_eq_false_iff_ne]
  rintro rfl
  have hnot : (Ident.plain word).isUsable = false := by
    simp only [Ident.isUsable, Ident.plain, Bool.false_or, Bool.not_eq_false', List.contains_iff_mem]
    exact hword
  exact absurd (hnot.symm.trans h) (by simp)

section
variable (table : Table) {bound : Reader (List Token)} {name : Ident} (hname : name.isUsable = true) {rest : List Token}
include hname

/-- None of the words stands here. -/
theorem any_isWord_eq_false (words : List String) (hwords : ∀ word ∈ words, word ∈ keywords) :
    words.any ((Token.ident name).isWord ·) = false := by
  rw [List.any_eq_false]
  intro word hword
  rw [isWord_eq_false hname word (hwords word hword)]
  exact Bool.false_ne_true

theorem run_pathSegment_of_segmentAfter {inExpression : Bool} {later : List Token}
    {result : Except FragmentError (PathSegment × List Token)}
    (h : (segmentAfter table bound inExpression name).run later = result) :
    (pathSegment table bound inExpression).run (.ident name :: later) = result := by
  have hspecial := any_isWord_eq_false hname ["super", "self", "crate", "try"] (by decide)
  have hself := isWord_eq_false hname "Self" (by decide)
  have hident : ident.run (.ident name :: later) = .ok (name, later) := by rw [run_ident_cons, if_pos hname]
  rw [pathSegment_eq, run_unless _ _ (by rw [run_next_cons, hspecial]),
    run_unless _ _ (by rw [seesWord, run_next_cons, hself]), run_bind_of_ok hident]
  exact h

theorem run_pathSegment_name (hrest : EndsType rest) :
    (pathSegment table bound false).run (.ident name :: rest) = .ok (⟨name, none⟩, rest) := by
  apply run_pathSegment_of_segmentAfter table hname
  unfold segmentAfter
  simp only [run_sees_bind, run_third_bind]
  rw [if_neg]
  · rfl
  · simp [hrest.startsWith '<' _ (by decide), hrest.startsWith ':' _ (by decide)]

end

section
variable (table : Table) {bound : Reader (List Token)} {tokens rest : List Token}

theorem run_pathRest_nil {inExpression : Bool} (hrest : EndsType rest) :
    (pathRest table bound inExpression).run rest = .ok ([], rest) := by
  have hsees : startsWith "::".toList rest = false := hrest.startsWith ':' _ (by decide)
  refine run_many (.stop ?_)
  rw [run_sees_bind, hsees, run_third_bind]
  rfl

theorem run_pathWith_segment {separator later : List Token} {segment : PathSegment}
    (hseparator : (operator? "::").run tokens = .ok (separator, later))
    (hsegment : (pathSegment table bound false).run later = .ok (segment, rest)) (hrest : EndsType rest) :
    (pathWith table bound false).run tokens = .ok (⟨!separator.isEmpty, [segment]⟩, rest) :=
  (run_bind_of_ok hseparator).trans ((run_bind_of_ok hsegment).trans (run_bind_of_ok (run_pathRest_nil table hrest)))

/-- A path with nothing that may be added to it is a type. -/
theorem run_pathType_path {plus : Bool} {path : Path} (hopening : startsWith ['<'] tokens = false)
    (hpath : (pathWith table (Grammar.bound table) false).run tokens = .ok (path, rest)) (hrest : EndsType rest) :
    (pathType table plus []).run tokens = .ok (⟨path.tokens, .path path⟩, rest) := by
  have hqualified : (qualifiedPath table false).run tokens = .ok (⟨path.tokens, .path path⟩, rest) := by
    unfold qualifiedPath
    rw [run_sees_bind]
    change StateT.run (if startsWith ['<'] tokens = true then _ else _) tokens = _
    rw [hopening, if_neg Bool.false_ne_true]
    exact run_bind_of_ok hpath
  have hparenthesized : seesParenthesized.run rest = .ok (false, rest) := by
    change Except.ok (rest.head?.any (·.isGroup .parenthesis) ||
      (startsWith [':', ':'] rest && (rest.drop 2).head?.any (·.isGroup .parenthesis)), rest) = _
    rw [hrest.isGroup, hrest.startsWith ':' _ (by decide)]
    rfl
  have hbang : startsWith "!".toList rest = false := hrest.startsWith '!' _ (by decide)
  have hplus : startsWith "+".toList rest = false := hrest.startsWith '+' _ (by decide)
  unfold pathType
  rw [run_bind_of_ok hqualified]
  dsimp only
  rw [run_bind_of_ok hparenthesized, Bool.and_false, if_neg Bool.false_ne_true, pure_bind, run_sees_bind, run_sees_bind,
    hbang, Bool.false_and, Bool.false_and, if_neg Bool.false_ne_true, run_sees_bind, hplus, Bool.and_false]
  rfl

/-- A name, perhaps with a separator in front of it, is read by the rule for paths. -/
theorem run_typeRule_name (attributes : Reader (List Token)) (plus : Bool) {name : Ident} {separator later : List Token}
    (hname : name.isUsable = true) (hseparator : (operator? "::").run tokens = .ok (separator, .ident name :: later)) :
    startsWith ['<'] tokens = false ∧ (typeRule table attributes plus).run tokens = (pathType table plus []).run tokens := by
  rcases run_separator_cases hseparator with ⟨-, rfl⟩ | ⟨-, spacing, rfl⟩
  · -- the words that begin another type are keywords, and the name is none
    refine ⟨rfl, ?_⟩
    have hfor := isWord_eq_false hname "for" (by decide)
    have hfunction := any_isWord_eq_false hname ["fn", "unsafe", "extern"] (by decide)
    have hbinder : binder.run (.ident name :: later) = .ok ([], .ident name :: later) := by
      unfold binder
      rw [run_unless _ _ (by rw [seesWord, run_next_cons, hfor])]
      rfl
    have husable : (Token.ident name).isUsableIdent = true := hname
    unfold typeRule
    rw [run_bind_of_ok hbinder, run_unless _ _ (by rfl), run_unless _ _ (by rw [run_next_cons, hfunction]),
      run_bind_of_ok (run_next_cons _ _ _), husable]
    rfl
  · exact ⟨rfl, rfl⟩

/-- A name is read as a type that is this name. -/
theorem run_name {attributes : Reader (List Token)} {plus : Bool} {name : Ident} (hname : name.isUsable = true)
    (hrest : EndsType rest) :
    (typeRule table attributes plus).run (.ident name :: rest) = .ok (⟨[.ident name], .path (.ofIdent name)⟩, rest) := by
  have hseparator : (operator? "::").run (.ident name :: rest) = .ok ([], .ident name :: rest) := rfl
  obtain ⟨hopening, htype⟩ := run_typeRule_name table attributes plus hname hseparator
  have hpath : (pathWith table (Grammar.bound table) false).run (.ident name :: rest) = .ok (.ofIdent name, rest) :=
    run_pathWith_segment table hseparator (run_pathSegment_name table hname hrest) hrest
  rw [htype]
  exact run_pathType_path table hopening hpath hrest

end

/-- What begins with a separator or without one. -/
theorem exists_run_separator {tokens : List Token} {present : Bool} {symbol : Symbol} {more : List Symbol}
    (h : symbols tokens = Symbol.separator.when present ++ symbol :: more) (hsymbol : symbol ≠ .separator) :
    ∃ separator later, (operator? "::").run tokens = .ok (separator, later) ∧ (!separator.isEmpty) = present ∧
      symbols later = symbol :: more := by
  cases present with
  | true =>
    obtain ⟨spacing, later, rfl, hlater⟩ := eq_cons_of_symbols_separator tokens _ h
    exact ⟨Token.pathSeparator, later, rfl, rfl, hlater⟩
  | false =>
    have hnone : startsWith [':', ':'] tokens = false := by
      rw [Bool.eq_false_iff]
      intro hstarts
      obtain ⟨spacing, rest, rfl⟩ := exists_separator_of_startsWith tokens hstarts
      exact hsymbol (List.cons.inj h).1.symm
    refine ⟨[], tokens, ?_, rfl, h⟩
    unfold operator?
    rw [run_sees_bind]
    change StateT.run (if startsWith [':', ':'] tokens = true then _ else _) tokens = _
    rw [hnone]
    rfl

section
variable (bound : Reader (List Token)) (name : Ident) {argument : Ident} (hargument : argument.isUsable = true) (depth : Nat)
include hargument

theorem run_genericArgument {rest : List Token} (hrest : EndsType rest) :
    (genericArgument (rules (depth + 1)) bound).run (.ident argument :: rest) =
      .ok (⟨false, [.ident argument], some argument, false⟩, rest) := by
  have hliteral : startsLiteral (.ident argument :: rest) = false := by
    change ((Token.ident argument).isWord "true" || (Token.ident argument).isWord "false") = false
    rw [isWord_eq_false hargument "true" (by decide), isWord_eq_false hargument "false" (by decide)]
    rfl
  have htype : (rules (depth + 1) (.type true)).run (.ident argument :: rest) =
      .ok (⟨[.ident argument], .path (.ofIdent argument)⟩, rest) := run_name _ hargument hrest
  have hbrace : (seesGroup .brace).run (.ident argument :: rest) = .ok (false, .ident argument :: rest) := rfl
  have hequals : startsWith "=".toList rest = false := hrest.startsWith '=' _ (by decide)
  have hcolon : startsWith ":".toList rest = false := hrest.startsWith ':' _ (by decide)
  unfold genericArgument
  rw [run_get_bind, if_neg (by simp [startsLifetime]), run_bind_of_ok hbrace, hliteral, Bool.or_false,
    if_neg Bool.false_ne_true, run_bind_of_ok htype]
  dsimp only
  rw [run_sees_bind, hequals, Bool.and_false, if_neg Bool.false_ne_true, run_sees_bind, hcolon, Bool.and_false]
  rfl

/-- One name in angle brackets, perhaps with a comma. -/
theorem exists_run_angleEntries {tokens : List Token} {trailing : Bool}
    (h : symbols tokens = .mark '<' :: .word argument :: ((Symbol.mark ',').when trailing ++ [.mark '>'])) :
    ∃ entries, (angleEntries (genericArgument (rules (depth + 1)) bound)).run tokens = .ok (entries, []) ∧
      Entry.soleName entries = some argument := by
  obtain ⟨opening, inside, rfl, hinside⟩ := eq_cons_of_symbols_mark tokens _ _ h
  obtain ⟨after, rfl, hafter⟩ := eq_cons_of_symbols_word inside _ _ hinside
  have hone : EndsType after → (genericArgument (rules (depth + 1)) bound).run (.ident argument :: after) =
      .ok (⟨false, [.ident argument], some argument, false⟩, after) := run_genericArgument bound hargument depth
  -- the entry and the comma after it, up to the closing bracket
  obtain ⟨closing, hentry⟩ : ∃ closing, (angleEntry (genericArgument (rules (depth + 1)) bound)).run
      (.ident argument :: after) =
        .ok (some ⟨false, [.ident argument], some argument, trailing⟩, [.punct '>' closing]) := by
    cases trailing with
    | true =>
      obtain ⟨comma, later, rfl, hlater⟩ := eq_cons_of_symbols_mark after _ _ hafter
      obtain ⟨closing, final, rfl, hfinal⟩ := eq_cons_of_symbols_mark later _ _ hlater
      obtain rfl := eq_nil_of_symbols final hfinal
      refine ⟨closing, ?_⟩
      rw [angleEntry, run_unless _ _ (by rfl), run_bind_of_ok (hone (.inr ⟨_, _, _, rfl, by decide⟩))]
      rfl
    | false =>
      obtain ⟨closing, final, rfl, hfinal⟩ := eq_cons_of_symbols_mark after _ _ hafter
      obtain rfl := eq_nil_of_symbols final hfinal
      refine ⟨closing, ?_⟩
      rw [angleEntry, run_unless _ _ (by rfl), run_bind_of_ok (hone (.inr ⟨_, _, _, rfl, by decide⟩))]
      rfl
  have hless : [Token.punct '>' closing].length < (Token.ident argument :: after).length := by
    cases after with
    | nil => cases trailing <;> exact absurd hafter (by simp [symbols, Symbol.when])
    | cons token later => simp
  have hmany := run_many (.step hentry hless (.stop rfl))
  have hopening : (operator "<").run (.punct '<' opening :: .ident argument :: after) =
      .ok (Token.operator ['<'], .ident argument :: after) := rfl
  exact ⟨_, (run_bind_of_ok hopening).trans (run_bind_of_ok hmany), rfl⟩

theorem exists_run_segmentAfter {tokens : List Token} {turbofish trailing : Bool}
    (h : symbols tokens = Symbol.separator.when turbofish ++ .mark '<' :: .word argument ::
      ((Symbol.mark ',').when trailing ++ [.mark '>'])) :
    ∃ arguments, (segmentAfter (rules (depth + 1)) bound false name).run tokens = .ok (⟨name, some arguments⟩, []) ∧
      arguments.soleName = some argument := by
  obtain ⟨separator, between, hseparator, -, hbetween⟩ := exists_run_separator h (by simp)
  obtain ⟨entries, hentries, hsole⟩ := exists_run_angleEntries bound hargument depth hbetween
  obtain ⟨opening, inside, rfl, hinside⟩ := eq_cons_of_symbols_mark between _ _ hbetween
  obtain ⟨after, rfl, -⟩ := eq_cons_of_symbols_word inside _ _ hinside
  refine ⟨⟨!separator.isEmpty, Entry.lifetimesFirst entries, Entry.soleName entries⟩, ?_, hsole⟩
  unfold segmentAfter
  simp only [run_sees_bind, run_third_bind]
  rw [if_pos]
  · exact (run_bind_of_ok hseparator).trans (run_bind_of_ok hentries)
  · rcases run_separator_cases hseparator with ⟨-, rfl⟩ | ⟨-, spacing, rfl⟩
    · cases opening <;> rfl
    · cases opening <;> rfl

end

/-- A name applied to a name is read as that. -/
theorem exists_run_applied {attributes : Reader (List Token)} {plus : Bool} {name argument : Ident}
    (hname : name.isUsable = true) (hargument : argument.isUsable = true) (depth : Nat) {tokens : List Token}
    {leading turbofish trailing : Bool}
    (h : symbols tokens = Symbol.separator.when leading ++ .word name ::
      (Symbol.separator.when turbofish ++ .mark '<' :: .word argument :: ((Symbol.mark ',').when trailing ++ [.mark '>']))) :
    ∃ reading arguments, (typeRule (rules (depth + 1)) attributes plus).run tokens = .ok (reading, []) ∧
      reading.shape = .path ⟨leading, [⟨name, some arguments⟩]⟩ ∧ arguments.soleName = some argument := by
  obtain ⟨separator, later, hseparator, rfl, hlater⟩ := exists_run_separator h (by simp)
  obtain ⟨after, rfl, hafter⟩ := eq_cons_of_symbols_word later _ _ hlater
  obtain ⟨arguments, harguments, hsole⟩ := exists_run_segmentAfter (Grammar.bound (rules (depth + 1))) name hargument
    depth hafter
  have hsegment := run_pathSegment_of_segmentAfter _ hname harguments
  have hpath := run_pathWith_segment _ hseparator hsegment (.inl rfl)
  obtain ⟨hopening, htype⟩ := run_typeRule_name (rules (depth + 1)) attributes plus hname hseparator
  rw [htype]
  exact ⟨_, arguments, run_pathType_path _ hopening hpath (.inl rfl), rfl, hsole⟩

end Grammar
end TypedStatement.Source
