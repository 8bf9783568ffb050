import Mathlib.Data.List.Flatten
import Mathlib.Data.List.Perm.Subperm
import TypedStatement.Proofs.Generator.Names

/-!
# Problems with names

The names of the statements are looked at in the order of the manifest, and those of one statement in a fixed order of checks.
The first problem found is reported (`nameStatements_eq_error_iff`); the templates play no part in it.  Statements without a
problem have none either when some of them are left out or when they stand in another order.
-/

namespace TypedStatement
set_option autoImplicit false

open Source (Ident)

/-! ## Problems -/

/-- What is looked at in the names of one statement. -/
inductive NameCheck where
  /-- Whether the name makes the name of a struct. -/
  | struct
  /-- Whether the name given to the row type is an identifier. -/
  | row
  | structFree
  | rowFree
  deriving DecidableEq

/-- The checks in the order in which they are made. -/
def NameCheck.all : List NameCheck :=
  [.struct, .row, .structFree, .rowFree]

/-- The two names that the types of a statement take, if it has any. -/
def ManifestStatement.takenNames (statement : ManifestStatement) : List String :=
  match statement.named with
  | .ok named => named.checkedNames
  | .error _ => []

/-- What a check finds wrong with the names of a statement when others are taken. -/
def HasNameProblem (taken : List String) (statement : ManifestStatement) : NameCheck → GenerateError → Prop
  | .struct, error => ∃ cause, Ident.parse (Text.camelCase statement.name) = .error cause ∧
    error = .structName statement.name cause
  | .row, error => ∃ row cause, statement.row = some row ∧ Ident.parse row = .error cause ∧
    error = .rowName row statement.name cause
  | .structFree, error => ∃ named, statement.named = .ok named ∧ named.struct.text ∈ taken ∧
    error = .structClash named.struct.text statement.name
  | .rowFree, error => ∃ named, statement.named = .ok named ∧ (named.rowText = named.struct.text ∨ named.rowText ∈ taken) ∧
    error = .rowClash named.rowText statement.name

/-- The first check of a statement that finds a problem. -/
def NameFault (taken : List String) (statement : ManifestStatement) (error : GenerateError) : Prop :=
  FirstFault (fun _ => HasNameProblem taken statement) NameCheck.all error

/-- The first problem that the names of statements have when others are taken.  A statement takes its names for all after it. -/
def FirstNameProblem (taken : List String) (statements : List ManifestStatement) (error : GenerateError) : Prop :=
  FirstFault (fun before => NameFault (taken ++ before.flatMap ManifestStatement.takenNames)) statements error

/-! ## One statement -/

/-- A statement takes its names; the answer is what is taken then. -/
def takeNames (taken : List String) (statement : ManifestStatement) : Except GenerateError (List String) :=
  match statement.named with
  | .error error => .error error
  | .ok named => named.reserve taken

section
variable (taken : List String) (statement : ManifestStatement)

theorem rowIdent_eq_error_iff (error : GenerateError) :
    statement.rowIdent = .error error ↔ HasNameProblem taken statement .row error := by
  unfold ManifestStatement.rowIdent HasNameProblem
  cases statement.row with
  | none => simp
  | some row =>
    cases hparse : Ident.parse row with
    | error cause => simp [hparse, eq_comm]
    | ok ident => simp [hparse]

/-- When both names can be read, the checks left are whether they are free. -/
theorem nameFault_of_named (named : NamedStatement) (hnamed : statement.named = .ok named) (error : GenerateError) :
    FirstFault (fun _ => HasNameProblem taken statement) [.structFree, .rowFree] error ↔
      named.reserve taken = .error error := by
  have hstatement := ((named_eq_ok_iff statement named).1 hnamed).1
  have hstruct : ∀ other, HasNameProblem taken statement .structFree other ↔
      named.struct.text ∈ taken ∧ other = .structClash named.struct.text statement.name := by
    intro other
    simp [HasNameProblem, hnamed]
  have hrow : ∀ other, HasNameProblem taken statement .rowFree other ↔
      (named.rowText = named.struct.text ∨ named.rowText ∈ taken) ∧ other = .rowClash named.rowText statement.name := by
    intro other
    simp [HasNameProblem, hnamed]
  unfold NamedStatement.reserve
  rw [List.contains_eq_mem, List.contains_eq_mem, hstatement]
  by_cases htaken : named.struct.text ∈ taken
  · rw [firstFault_cons_of_eq _ _ _ (.structClash named.struct.text statement.name) error fun other => by simp [hstruct, htaken]]
    simp [htaken, eq_comm]
  · rw [firstFault_cons_of_not _ _ _ error fun other => by simp [hstruct, htaken]]
    by_cases hclash : named.rowText = named.struct.text ∨ named.rowText ∈ taken
    · rw [firstFault_cons_of_eq _ _ _ (.rowClash named.rowText statement.name) error fun other => by simp [hrow, hclash]]
      simp [htaken, hclash, eq_comm]
    · rw [firstFault_cons_of_not _ _ _ error fun other => by simp [hrow, hclash]]
      simp [htaken, hclash, firstFault_nil]

theorem nameFault_iff (error : GenerateError) :
    NameFault taken statement error ↔ takeNames taken statement = .error error := by
  unfold NameFault NameCheck.all takeNames ManifestStatement.named
  cases hstruct : Ident.parse (Text.camelCase statement.name) with
  | error cause =>
    have hunique : ∀ other, HasNameProblem taken statement .struct other ↔ other = .structName statement.name cause := by
      intro other
      simp [HasNameProblem, hstruct]
    rw [firstFault_cons_of_eq _ _ _ _ error hunique]
    exact (error_eq_error_iff _ error).symm
  | ok struct =>
    have hnone : ∀ other, ¬ HasNameProblem taken statement .struct other := by
      intro other
      simp [HasNameProblem, hstruct]
    have hproblem := fun other => (rowIdent_eq_error_iff taken statement other).symm
    rw [firstFault_cons_of_not _ _ _ error hnone]
    cases hrow : statement.rowIdent with
    | error found =>
      rw [firstFault_cons_of_error hproblem hrow]
      exact (error_eq_error_iff found error).symm
    | ok row =>
      rw [firstFault_cons_of_ok hproblem hrow]
      exact nameFault_of_named taken statement ⟨statement, struct, row⟩
        ((named_eq_ok_iff _ _).2 ⟨rfl, hstruct, hrow⟩) error

theorem takeNames_eq_ok_iff (now : List String) :
    takeNames taken statement = .ok now ↔ ∃ named, statement.named = .ok named ∧ named.reserve taken = .ok now := by
  unfold takeNames
  cases statement.named with
  | error error => simp
  | ok named => simp

/-- Only which names are taken matters, not their order. -/
theorem nameFault_congr (other : List String) (h : ∀ name, name ∈ taken ↔ name ∈ other) :
    NameFault taken statement = NameFault other statement := by
  have hproblem : HasNameProblem taken statement = HasNameProblem other statement := by
    funext check error
    cases check <;> simp [HasNameProblem, h]
  unfold NameFault
  rw [hproblem]

end

/-! ## All statements -/

theorem nameStatements_cons_error (taken : List String) (statement : ManifestStatement) (rest : List ManifestStatement) :
    (nameStatements taken (statement :: rest)).2 =
      match takeNames taken statement with
      | .error error => some error
      | .ok now => (nameStatements now rest).2 := by
  rw [nameStatements, takeNames]
  cases statement.named with
  | error error => rfl
  | ok named => cases hreserve : named.reserve taken <;> simp only [hreserve]

theorem nameStatements_eq_error_iff (taken : List String) (statements : List ManifestStatement) (error : GenerateError) :
    (nameStatements taken statements).2 = some error ↔ FirstNameProblem taken statements error := by
  unfold FirstNameProblem
  -- The names taken grow from statement to statement, so the induction is for any names taken before.
  induction statements generalizing taken with
  | nil => simp [nameStatements, firstFault_nil]
  | cons statement rest ih =>
    have hfault : ∀ other, NameFault (taken ++ [].flatMap ManifestStatement.takenNames) statement other ↔
        takeNames taken statement = .error other := by
      intro other
      rw [List.flatMap_nil, List.append_nil, nameFault_iff]
    rw [nameStatements_cons_error]
    cases htake : takeNames taken statement with
    | error found =>
      rw [firstFault_cons_of_error hfault htake, Option.some.injEq, eq_comm]
    | ok now =>
      have hnow : ∀ before, NameFault (taken ++ (statement :: before).flatMap ManifestStatement.takenNames) =
          NameFault (now ++ before.flatMap ManifestStatement.takenNames) := by
        obtain ⟨named, hnamed, hreserve⟩ := (takeNames_eq_ok_iff taken statement now).1 htake
        obtain ⟨-, rfl⟩ := (reserve_eq_ok_iff taken now named).1 hreserve
        intro before
        funext later
        refine nameFault_congr _ later _ fun name => ?_
        simp only [List.flatMap_cons, ManifestStatement.takenNames, hnamed, NamedStatement.checkedNames, List.mem_append,
          List.mem_cons, List.not_mem_nil, or_false]
        tauto
      rw [firstFault_cons_of_ok hfault htake]
      simp only [hnow]
      exact ih now

/-- All statements are named, or the first problem with their names is reported. -/
theorem nameStatements_cases (taken : List String) (statements : List ManifestStatement) :
    (∃ all, nameStatements taken statements = (all, none)) ∨ ∃ error, FirstNameProblem taken statements error := by
  cases herror : (nameStatements taken statements).2 with
  | none => exact .inl ⟨_, Prod.ext rfl herror⟩
  | some error => exact .inr ⟨error, (nameStatements_eq_error_iff taken statements error).1 herror⟩

theorem exists_named_iff (taken : List String) (statements : List ManifestStatement) :
    (∃ all, nameStatements taken statements = (all, none)) ↔ ∀ error, ¬ FirstNameProblem taken statements error := by
  constructor
  · rintro ⟨all, hall⟩ error herror
    rw [← nameStatements_eq_error_iff, hall] at herror
    exact absurd herror (by simp)
  · intro hnone
    exact (nameStatements_cases taken statements).resolve_right fun ⟨error, herror⟩ => hnone error herror

/-! ## Other templates, and other lists -/

/-- The statements have the same names, whatever their templates are. -/
def SameNames (statement other : ManifestStatement) : Prop :=
  other.name = statement.name ∧ other.row = statement.row

theorem reserve_congr (taken : List String) (a b : NamedStatement) (hstruct : b.struct = a.struct) (hrow : b.row = a.row)
    (hname : b.statement.name = a.statement.name) : b.reserve taken = a.reserve taken := by
  unfold NamedStatement.reserve NamedStatement.rowText
  rw [hstruct, hrow, hname]

theorem takeNames_sameNames (taken : List String) (statement other : ManifestStatement) (h : SameNames statement other) :
    takeNames taken other = takeNames taken statement := by
  obtain ⟨hname, hrow⟩ := h
  have hident : other.rowIdent = statement.rowIdent := by
    unfold ManifestStatement.rowIdent
    rw [hname, hrow]
  unfold takeNames ManifestStatement.named
  rw [hname, hident]
  cases Ident.parse (Text.camelCase statement.name) with
  | error cause => rfl
  | ok struct =>
    cases statement.rowIdent with
    | error error => rfl
    | ok row => exact reserve_congr taken ⟨statement, struct, row⟩ ⟨other, struct, row⟩ rfl rfl hname

theorem nameStatements_sameNames (taken : List String) (statements others : List ManifestStatement)
    (h : List.Forall₂ SameNames statements others) :
    (nameStatements taken others).2 = (nameStatements taken statements).2 := by
  induction h generalizing taken with
  | nil => rfl
  | cons hfirst _ ih =>
    rw [nameStatements_cons_error, nameStatements_cons_error, takeNames_sameNames taken _ _ hfirst]
    split
    · rfl
    · exact ih _

theorem exists_right_of_mem {α β : Type} {R : α → β → Prop} {as : List α} {bs : List β} (h : List.Forall₂ R as bs) {a : α}
    (ha : a ∈ as) : ∃ b ∈ bs, R a b :=
  exists_left_of_mem h.flip ha

theorem exists_forall₂ {α β : Type} {R : α → β → Prop} {as : List α} (h : ∀ a ∈ as, ∃ b, R a b) :
    ∃ bs, List.Forall₂ R as bs := by
  induction as with
  | nil => exact ⟨[], .nil⟩
  | cons a as ih =>
    obtain ⟨⟨b, hb⟩, hrest⟩ := List.forall_mem_cons.1 h
    obtain ⟨bs, hbs⟩ := ih hrest
    exact ⟨b :: bs, .cons hb hbs⟩

/-- All statements can be named exactly if each has names and no two names are the same. -/
theorem exists_named_iff_nodup (statements : List ManifestStatement) :
    (∃ all, nameStatements [] statements = (all, none)) ↔
      (∀ statement ∈ statements, ∃ named, statement.named = .ok named) ∧
      (statements.flatMap ManifestStatement.takenNames).Nodup := by
  have htaken : ∀ all, List.Forall₂ (fun statement named => statement.named = .ok named) statements all →
      statements.flatMap ManifestStatement.takenNames = all.flatMap NamedStatement.checkedNames := by
    intro all hall
    induction hall with
    | nil => rfl
    | cons hfirst _ ih => rw [List.flatMap_cons, List.flatMap_cons, ih, ManifestStatement.takenNames, hfirst]
  constructor
  · rintro ⟨all, hall⟩
    obtain ⟨hnames, hfree⟩ := (nameStatements_eq_iff [] statements all).1 hall
    refine ⟨fun statement hstatement => ?_, by rw [htaken all hnames]; exact hfree.distinct⟩
    obtain ⟨named, -, hnamed⟩ := exists_right_of_mem hnames hstatement
    exact ⟨named, hnamed⟩
  · rintro ⟨hnamed, hdistinct⟩
    obtain ⟨all, hall⟩ := exists_forall₂ hnamed
    refine ⟨all, (nameStatements_eq_iff [] statements all).2 ⟨hall, ?_, by simp⟩⟩
    rwa [← htaken all hall]

/-- Statements that can all be named still can when some are left out or moved. -/
theorem exists_named_of_subperm (statements others : List ManifestStatement) (h : List.Subperm others statements)
    (hnamed : ∃ all, nameStatements [] statements = (all, none)) : ∃ all, nameStatements [] others = (all, none) := by
  rw [exists_named_iff_nodup] at hnamed ⊢
  obtain ⟨hnames, hdistinct⟩ := hnamed
  obtain ⟨kept, hperm, hkept⟩ := h
  refine ⟨fun statement hstatement => hnames statement (hkept.subset (hperm.mem_iff.2 hstatement)), ?_⟩
  exact (hperm.flatMap_right _).nodup_iff.1 ((hkept.flatMap _).nodup hdistinct)

end TypedStatement
