import TypedStatement.Proofs.Generator.NameProblems

/-!
# The outcome of generation

Generation is all or nothing, and statement by statement.  A problem with the names of any statement ends it, whatever the
templates are.  Otherwise every statement is expanded by itself: the outcome collects the failures of those that fail, and a
module is made of all of them if none does.  So what becomes of one statement depends on no other (`generate_by_statement`).
-/

namespace TypedStatement
set_option autoImplicit false

namespace Generator

/-! ## Statements by themselves -/

section
variable (generator : Generator)

/-- The statement by itself is expanded to this. -/
def Expands (statement : ManifestStatement) (expanded : ExpandedStatement) : Prop :=
  statement.named = .ok expanded.named ∧ generator.expandStatement expanded.named = .ok expanded.expansion

/-- The statement by itself cannot be expanded, for this reason. -/
def Fails (statement : ManifestStatement) (failure : Failure) : Prop :=
  ∃ named error, statement.named = .ok named ∧ generator.expandStatement named = .error error ∧
    failure = ⟨statement.name, statement.sql, error.diagnostic⟩

/-- The failures of the statements that fail, one for each and in their order. -/
inductive Collects : List ManifestStatement → List Failure → Prop
  | nil : Collects [] []
  | failing (statement : ManifestStatement) (failure : Failure) (rest : List ManifestStatement) (failures : List Failure) :
      generator.Fails statement failure → Collects rest failures → Collects (statement :: rest) (failure :: failures)
  | passing (statement : ManifestStatement) (expanded : ExpandedStatement) (rest : List ManifestStatement)
      (failures : List Failure) : generator.Expands statement expanded → Collects rest failures →
      Collects (statement :: rest) failures

/-- What becomes of statements without a problem in their names. -/
structure Settles (statements : List ManifestStatement) : Prop where
  rejected : (∃ statement ∈ statements, ∃ failure, generator.Fails statement failure) →
    ∃ failures, generator.generate statements = .ok (.rejected failures) ∧ generator.Collects statements failures
  /-- The module is made of the expansions of all statements, in their order. -/
  accepted : (∀ statement ∈ statements, ∀ failure, ¬ generator.Fails statement failure) →
    ∃ all, List.Forall₂ generator.Expands statements all ∧
      generator.generate statements = (generator.module all).map .module
  /-- Exactly the failure that a statement has by itself stands for it in the outcome, whatever the others are. -/
  ownFailure : ∀ statement ∈ statements, ∀ failure, generator.Fails statement failure →
    ∃ failures, generator.generate statements = .ok (.rejected failures) ∧
      ∀ other, other ∈ failures ∧ other.statement = statement.name ↔ other = failure
  /-- Exactly the expansion that a statement has by itself stands for it, and it is never blamed. -/
  ownCode : ∀ statement ∈ statements, ∀ expanded, generator.Expands statement expanded →
    (∀ all, List.Forall₂ generator.Expands statements all →
      ∀ other, other ∈ all ∧ other.named.statement.name = statement.name ↔ other = expanded) ∧
    ∀ failures, generator.generate statements = .ok (.rejected failures) →
      ∀ failure ∈ failures, failure.statement ≠ statement.name
  /-- Some of the statements, in any order, have no problem in their names either. -/
  fewer : ∀ others, List.Subperm others statements → ∀ error, ¬ FirstNameProblem [] others error

end

section
variable {generator : Generator} {statement : ManifestStatement}

theorem Expands.unique {expanded other : ExpandedStatement} (h : generator.Expands statement expanded)
    (hother : generator.Expands statement other) : other = expanded := by
  obtain ⟨named, expansion⟩ := expanded
  obtain ⟨found, made⟩ := other
  obtain ⟨hnamed, hexpand⟩ := h
  obtain ⟨hfound, hmade⟩ := hother
  obtain rfl : named = found := Except.ok.inj (hnamed.symm.trans hfound)
  obtain rfl : expansion = made := Except.ok.inj (hexpand.symm.trans hmade)
  rfl

theorem Fails.unique {failure other : Failure} (h : generator.Fails statement failure)
    (hother : generator.Fails statement other) : other = failure := by
  obtain ⟨named, error, hnamed, herror, rfl⟩ := h
  obtain ⟨found, cause, hfound, hcause, rfl⟩ := hother
  obtain rfl := Except.ok.inj (hnamed.symm.trans hfound)
  rw [Except.error.inj (herror.symm.trans hcause)]

theorem Fails.not_expands {failure : Failure} (h : generator.Fails statement failure) (expanded : ExpandedStatement) :
    ¬ generator.Expands statement expanded := by
  rintro ⟨hnamed, hexpand⟩
  obtain ⟨named, error, hfound, herror, -⟩ := h
  rw [Except.ok.inj (hfound.symm.trans hnamed)] at herror
  exact absurd (herror.symm.trans hexpand) (by simp)

theorem Expands.name {expanded : ExpandedStatement} (h : generator.Expands statement expanded) :
    expanded.named.statement = statement :=
  ((named_eq_ok_iff statement expanded.named).1 h.1).1

theorem Fails.name {failure : Failure} (h : generator.Fails statement failure) : failure.statement = statement.name := by
  obtain ⟨-, -, -, -, rfl⟩ := h
  rfl

end

/-! ## Failures collected -/

section
variable {generator : Generator} {statements : List ManifestStatement} {failures : List Failure}

theorem Collects.exists_statement (h : generator.Collects statements failures) {failure : Failure}
    (hfailure : failure ∈ failures) : ∃ statement ∈ statements, generator.Fails statement failure := by
  induction h with
  | nil => exact absurd hfailure (by simp)
  | failing statement first rest failures hfirst _ ih =>
    rcases List.mem_cons.1 hfailure with rfl | hlater
    · exact ⟨statement, List.mem_cons_self, hfirst⟩
    · obtain ⟨found, hmem, hfound⟩ := ih hlater
      exact ⟨found, List.mem_cons_of_mem _ hmem, hfound⟩
  | passing statement expanded rest failures _ _ ih =>
    obtain ⟨found, hmem, hfound⟩ := ih hfailure
    exact ⟨found, List.mem_cons_of_mem _ hmem, hfound⟩

theorem Collects.mem (h : generator.Collects statements failures) {statement : ManifestStatement}
    (hstatement : statement ∈ statements) {failure : Failure} (hfailure : generator.Fails statement failure) :
    failure ∈ failures := by
  induction h with
  | nil => exact absurd hstatement (by simp)
  | failing first found rest failures hfirst _ ih =>
    rcases List.mem_cons.1 hstatement with rfl | hlater
    · rw [hfirst.unique hfailure]
      exact List.mem_cons_self
    · exact List.mem_cons_of_mem _ (ih hlater)
  | passing first expanded rest failures hfirst _ ih =>
    rcases List.mem_cons.1 hstatement with rfl | hlater
    · exact absurd hfirst (hfailure.not_expands expanded)
    · exact ih hlater

end

/-! ## Statements with names -/

/-- The names of the statements, in their order. -/
def Named (statements : List ManifestStatement) (all : List NamedStatement) : Prop :=
  List.Forall₂ (fun statement named => statement.named = .ok named) statements all

section
variable (generator : Generator) {statements : List ManifestStatement} {all : List NamedStatement}

theorem collects_attempts (h : Named statements all) :
    generator.Collects statements ((all.map generator.attempt).filterMap Attempt.failure?) := by
  induction h with
  | nil => exact .nil
  | @cons statement named rest later hnamed _ ih =>
    have hstatement := ((named_eq_ok_iff statement named).1 hnamed).1
    rw [List.map_cons, List.filterMap_cons]
    cases hresult : generator.expandStatement named with
    | error error =>
      simp only [attempt, Attempt.failure?, hresult]
      refine .failing _ _ _ _ ⟨named, error, hnamed, hresult, ?_⟩ ih
      rw [hstatement]
    | ok expansion =>
      simp only [attempt, Attempt.failure?, hresult]
      exact .passing _ ⟨named, expansion⟩ _ _ ⟨hnamed, hresult⟩ ih

theorem expands_attempts (h : Named statements all)
    (hnone : (all.map generator.attempt).filterMap Attempt.failure? = []) :
    List.Forall₂ generator.Expands statements ((all.map generator.attempt).filterMap Attempt.expanded?) := by
  induction h with
  | nil => exact .nil
  | @cons statement named rest later hnamed _ ih =>
    rw [List.map_cons, List.filterMap_cons] at hnone ⊢
    cases hresult : generator.expandStatement named with
    | error error => simp [attempt, Attempt.failure?, hresult] at hnone
    | ok expansion =>
      simp only [attempt, Attempt.failure?, Attempt.expanded?, hresult] at hnone ⊢
      exact .cons ⟨hnamed, hresult⟩ (ih hnone)

theorem generate_of_named (hall : nameStatements [] statements = (all, none)) :
    generator.generate statements = generator.conclude (all.map generator.attempt) := by
  rw [generate, hall]

theorem generate_of_error {error : GenerateError} (h : (nameStatements [] statements).2 = some error) :
    generator.generate statements = .error error := by
  unfold generate
  split
  · rename_i found hfound
    rw [hfound] at h
    rw [Option.some.inj h]
  · rename_i hfound
    rw [hfound] at h
    exact absurd h (by simp)

/-- Statements with the same name would have structs with the same name. -/
theorem nodup_names (hall : ∃ all, nameStatements [] statements = (all, none)) :
    (statements.map ManifestStatement.name).Nodup := by
  obtain ⟨hnamed, hdistinct⟩ := (exists_named_iff_nodup statements).1 hall
  have hapart := (List.nodup_flatMap.1 hdistinct).2
  unfold List.Nodup
  rw [List.pairwise_map]
  refine hapart.imp_of_mem fun {a b} ha hb hdisjoint hname => ?_
  obtain ⟨first, hfirst⟩ := hnamed a ha
  obtain ⟨second, hsecond⟩ := hnamed b hb
  have hstruct : first.struct = second.struct := by
    have hparse := ((named_eq_ok_iff a first).1 hfirst).2.1
    rw [hname, ((named_eq_ok_iff b second).1 hsecond).2.1] at hparse
    exact (Except.ok.inj hparse).symm
  have htaken : first.struct.text ∈ a.takenNames := by
    simp [ManifestStatement.takenNames, hfirst, NamedStatement.checkedNames]
  have hagain : first.struct.text ∈ b.takenNames := by
    simp [ManifestStatement.takenNames, hsecond, NamedStatement.checkedNames, hstruct]
  exact hdisjoint htaken hagain

theorem rejected_of_fails (hall : nameStatements [] statements = (all, none))
    (h : ∃ statement ∈ statements, ∃ failure, generator.Fails statement failure) :
    ∃ failures, generator.generate statements = .ok (.rejected failures) ∧ generator.Collects statements failures := by
  obtain ⟨statement, hstatement, failure, hfailure⟩ := h
  have hcollects := generator.collects_attempts ((nameStatements_eq_iff [] statements all).1 hall).1
  have hmem := hcollects.mem hstatement hfailure
  refine ⟨_, ?_, hcollects⟩
  rw [generator.generate_of_named hall, conclude]
  split
  · rename_i hnone
    rw [hnone] at hmem
    exact absurd hmem (by simp)
  · rename_i first rest hsome
    rw [hsome]

theorem accepted_of_not_fails (hall : nameStatements [] statements = (all, none))
    (h : ∀ statement ∈ statements, ∀ failure, ¬ generator.Fails statement failure) :
    ∃ expanded, List.Forall₂ generator.Expands statements expanded ∧
      generator.generate statements = (generator.module expanded).map .module := by
  have hnamed := ((nameStatements_eq_iff [] statements all).1 hall).1
  have hnone : (all.map generator.attempt).filterMap Attempt.failure? = [] := by
    refine List.eq_nil_iff_forall_not_mem.2 fun failure hfailure => ?_
    obtain ⟨statement, hstatement, hfails⟩ := (generator.collects_attempts hnamed).exists_statement hfailure
    exact h statement hstatement failure hfails
  refine ⟨_, generator.expands_attempts hnamed hnone, ?_⟩
  rw [generator.generate_of_named hall, conclude, hnone]

theorem settles (hall : ∃ all, nameStatements [] statements = (all, none)) : generator.Settles statements := by
  have hnames := nodup_names hall
  have hsame : ∀ a ∈ statements, ∀ b ∈ statements, a.name = b.name → a = b :=
    fun a ha b hb => List.inj_on_of_nodup_map hnames ha hb
  have hfewer := fun others h => (exists_named_iff [] others).1 (exists_named_of_subperm statements others h hall)
  obtain ⟨all, hall⟩ := hall
  have hrejected := generator.rejected_of_fails hall
  refine ⟨hrejected, generator.accepted_of_not_fails hall, ?_, ?_, hfewer⟩
  · intro statement hstatement failure hfailure
    obtain ⟨failures, hgenerate, hcollects⟩ := hrejected ⟨statement, hstatement, failure, hfailure⟩
    refine ⟨failures, hgenerate, fun other => ⟨?_, ?_⟩⟩
    · rintro ⟨hother, hname⟩
      obtain ⟨found, hfound, hfails⟩ := hcollects.exists_statement hother
      obtain rfl := hsame found hfound statement hstatement (hfails.name.symm.trans hname)
      exact hfailure.unique hfails
    · rintro rfl
      exact ⟨hcollects.mem hstatement hfailure, hfailure.name⟩
  · intro statement hstatement expanded hexpanded
    refine ⟨fun found hfound other => ⟨?_, ?_⟩, ?_⟩
    · rintro ⟨hother, hname⟩
      obtain ⟨source, hsource, hexpands⟩ := exists_left_of_mem hfound hother
      rw [hexpands.name] at hname
      obtain rfl := hsame source hsource statement hstatement hname
      exact hexpanded.unique hexpands
    · rintro rfl
      obtain ⟨made, hmade, hexpands⟩ := exists_right_of_mem hfound hstatement
      rw [← hexpanded.unique hexpands]
      exact ⟨hmade, by rw [hexpands.name]⟩
    · intro failures hgenerate failure hfailure hname
      have hcollects : generator.Collects statements failures := by
        by_cases hfails : ∃ statement ∈ statements, ∃ failure, generator.Fails statement failure
        · obtain ⟨found, hfound, hcollects⟩ := hrejected hfails
          rwa [Outcome.rejected.inj (Except.ok.inj (hgenerate.symm.trans hfound))]
        · obtain ⟨expansions, -, hmodule⟩ := generator.accepted_of_not_fails hall
            fun statement hstatement failure hfailure => hfails ⟨statement, hstatement, failure, hfailure⟩
          rw [hmodule, map_eq_ok_iff] at hgenerate
          obtain ⟨text, -, htext⟩ := hgenerate
          exact absurd htext (by simp)
      obtain ⟨found, hfound, hfails⟩ := hcollects.exists_statement hfailure
      obtain rfl := hsame found hfound statement hstatement (hfails.name.symm.trans hname)
      exact hfails.not_expands expanded hexpanded

end
end Generator

/-- A problem with names ends the generation with the first one, whatever the settings and templates are; there is a first one
exactly if some statement has one in view of those before it.  Without any, every statement is settled by itself. -/
theorem generate_by_statement (generator : Generator) (statements : List ManifestStatement) :
    ((∃ error, FirstNameProblem [] statements error) ↔ ∃ before statement after check error,
      statements = before ++ statement :: after ∧
      HasNameProblem (before.flatMap ManifestStatement.takenNames) statement check error) ∧
    (∀ error, FirstNameProblem [] statements error → ∀ (other : Generator) (others : List ManifestStatement),
      List.Forall₂ SameNames statements others → other.generate others = .error error) ∧
    ((∀ error, ¬ FirstNameProblem [] statements error) → generator.Settles statements) := by
  refine ⟨?_, ?_, ?_⟩
  · unfold FirstNameProblem
    rw [exists_firstFault_iff]
    constructor
    · rintro ⟨before, statement, after, error, hsplit, -, check, -, -, hproblem, -⟩
      exact ⟨before, statement, after, check, error, hsplit, hproblem⟩
    · rintro ⟨before, statement, after, check, error, hsplit, hproblem⟩
      obtain ⟨front, back, hchecks⟩ := List.append_of_mem (show check ∈ NameCheck.all by cases check <;> decide)
      obtain ⟨first, hfirst⟩ := (exists_firstFault_iff (fun _ => HasNameProblem
        (before.flatMap ManifestStatement.takenNames) statement) NameCheck.all).2 ⟨front, check, back, error, hchecks, hproblem⟩
      exact ⟨before, statement, after, first, hsplit, hfirst⟩
  · intro error herror other others hothers
    apply other.generate_of_error
    rw [nameStatements_sameNames [] statements others hothers]
    exact (nameStatements_eq_error_iff [] statements error).2 herror
  · intro hnone
    exact generator.settles ((exists_named_iff [] statements).2 hnone)

/-- Two statements with one name, under templates that cannot be read. -/
def twoUsers : List ManifestStatement :=
  [⟨"users", "\x7b", none, none⟩, ⟨"Users", "\x7d", none, none⟩]

/-- A statement that can be expanded between two that cannot. -/
def mixedUsers : List ManifestStatement :=
  [⟨"first", "\x7b", none, none⟩, ⟨"second", "SELECT {n, i64}", none, none⟩, ⟨"third", "SELECT {n}", none, none⟩]

def firstUser : ManifestStatement :=
  ⟨"first", "\x7b", none, none⟩

def firstFailure : Failure :=
  ⟨"first", "\x7b", (StatementError.malformedTemplate ⟨.unterminatedHole, ⟨0, 1⟩⟩).diagnostic⟩

theorem fails_firstUser : usualGenerator.Fails firstUser firstFailure :=
  ⟨⟨firstUser, ⟨"First", false⟩, none⟩, .malformedTemplate ⟨.unterminatedHole, ⟨0, 1⟩⟩,
    named_of_isAsciiName (by decide) (by decide) (by decide) rfl,
    expandStatement_of_compile_error usualGenerator _ compile_openBrace, rfl⟩

theorem generate_by_statement_mixed :
    FirstNameProblem [] twoUsers (.structClash "Users" "Users") ∧
    usualGenerator.generate [⟨"users", "SELECT 1", none, none⟩, ⟨"Users", "SELECT 2", none, some "Users."⟩] =
      .error (.structClash "Users" "Users") ∧
    (∀ error, ¬ FirstNameProblem [] mixedUsers error) ∧ usualGenerator.Fails firstUser firstFailure ∧
    (∃ failures, usualGenerator.generate mixedUsers = .ok (.rejected failures) ∧ firstFailure ∈ failures) ∧
    ∃ failures, usualGenerator.generate mixedUsers.reverse = .ok (.rejected failures) ∧ firstFailure ∈ failures := by
  have hclash : FirstNameProblem [] twoUsers (.structClash "Users" "Users") :=
    (nameStatements_eq_error_iff _ _ _).1 (by decide +kernel)
  have hnone : ∀ error, ¬ FirstNameProblem [] mixedUsers error := by
    intro error herror
    have hnamed : (nameStatements [] mixedUsers).2 = none := by decide +kernel
    rw [← nameStatements_eq_error_iff, hnamed] at herror
    exact absurd herror (by simp)
  have hsettles := (generate_by_statement usualGenerator mixedUsers).2.2 hnone
  have hreversed := (generate_by_statement usualGenerator mixedUsers.reverse).2.2
    (hsettles.fewer _ (List.reverse_perm _).subperm)
  refine ⟨hclash, ?_, hnone, fails_firstUser, ?_, ?_⟩
  · exact (generate_by_statement usualGenerator twoUsers).2.1 _ hclash usualGenerator _
      (.cons ⟨rfl, rfl⟩ (.cons ⟨rfl, rfl⟩ .nil))
  · obtain ⟨failures, hgenerate, hfailures⟩ := hsettles.ownFailure firstUser (by decide) _ fails_firstUser
    exact ⟨failures, hgenerate, ((hfailures firstFailure).2 rfl).1⟩
  · obtain ⟨failures, hgenerate, hfailures⟩ := hreversed.ownFailure firstUser (by decide) _ fails_firstUser
    exact ⟨failures, hgenerate, ((hfailures firstFailure).2 rfl).1⟩

end TypedStatement
