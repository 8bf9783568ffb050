import TypedStatement.Generator.Outcome
import Mathlib.Data.List.Forall2
import Mathlib.Data.List.Nodup
import TypedStatement.Proofs.Expansion.Host
import TypedStatement.Proofs.Source.Names
import TypedStatement.Proofs.Text.CamelCase

/-!
# Names of generated types

The names of the types of all statements are written differently when there is an outcome at all, and the name that is
checked for a row type is the one that is declared.  As identifiers, where `r#` is no part of the name, they can still
be the same: exactly if a row name is given with `r#` and another type has it without (`generate_declares_apart`).
-/

namespace TypedStatement
set_option autoImplicit false

open Source (Ident)

/-! ## Names of structs -/

theorem avoidsCapitals_otherOpenings : Text.AvoidsCapitals Source.otherOpenings where
  ascii := by decide
  letters := (Text.apart_iff _ _).2 (by decide +kernel)
  numbers := (Text.apart_iff _ _).2 (by decide)
  expansions := by decide
  shifts := by decide +kernel
  positive := by decide

theorem named_eq_ok_iff (statement : ManifestStatement) (named : NamedStatement) :
    statement.named = .ok named ↔ named.statement = statement ∧
      Ident.parse (Text.camelCase statement.name) = .ok named.struct ∧ statement.rowIdent = .ok named.row := by
  unfold ManifestStatement.named
  cases Ident.parse (Text.camelCase statement.name) with
  | error cause => simp
  | ok struct =>
    rw [map_eq_ok_iff]
    constructor
    · rintro ⟨row, hrow, rfl⟩
      exact ⟨rfl, rfl, hrow⟩
    · rintro ⟨rfl, hstruct, hrow⟩
      refine ⟨named.row, hrow, ?_⟩
      rw [Except.ok.inj hstruct]

theorem rowIdent_of_parse {statement : ManifestStatement} {text : String} {row : Ident} (htext : statement.row = some text)
    (h : Ident.parse text = .ok row) : statement.rowIdent = .ok (some row) := by
  rw [ManifestStatement.rowIdent, htext]
  simp only [h]

theorem named_of_isAsciiName {statement : ManifestStatement} {struct : String} {row : Option Ident}
    (hstruct : Text.camelCase statement.name = struct) (hname : Text.isAsciiName struct.toList = true)
    (husable : (Ident.plain struct).isUsable = true) (hrow : statement.rowIdent = .ok row) :
    statement.named = .ok ⟨statement, .plain struct, row⟩ := by
  rw [named_eq_ok_iff, hstruct]
  exact ⟨rfl, Source.parse_ident_name hname husable, hrow⟩

/-- The name of a struct begins with the upper-case form of a letter or digit, so never with `r#`. -/
theorem struct_not_raw (statement : ManifestStatement) (named : NamedStatement) (h : statement.named = .ok named) :
    named.struct.raw = false := by
  have hparse := ((named_eq_ok_iff statement named).1 h).2.1
  refine Source.raw_eq_false_of_parse _ named.struct hparse ?_
  intro c hc
  obtain ⟨source, hsource, hupper⟩ := Text.exists_toUppercase_of_camelCase statement.name c hc
  exact avoidsCapitals_otherOpenings.not_contains source c hsource hupper

/-! ## Names taken -/

/-- The names of a statement's types as they are checked. -/
def NamedStatement.checkedNames (named : NamedStatement) : List String :=
  [named.struct.text, named.rowText]

/-- A statement takes its two names if they are free, and differ. -/
theorem reserve_eq_ok_iff (taken now : List String) (named : NamedStatement) :
    named.reserve taken = .ok now ↔
      AreFree taken named.checkedNames ∧ now = named.rowText :: named.struct.text :: taken := by
  unfold NamedStatement.checkedNames NamedStatement.reserve
  rw [areFree_cons_iff, areFree_cons_iff, List.contains_eq_mem, List.contains_eq_mem]
  by_cases hstruct : named.struct.text ∈ taken
  · simp [hstruct]
  · by_cases hrow : named.rowText ∈ named.struct.text :: taken
    · simp [hstruct, hrow]
    · simp [hstruct, hrow, areFree_nil, eq_comm]

theorem nameStatements_cons_eq_iff (taken : List String) (statement : ManifestStatement)
    (rest : List ManifestStatement) (all : List NamedStatement) :
    nameStatements taken (statement :: rest) = (all, none) ↔ ∃ named now later, statement.named = .ok named ∧
      named.reserve taken = .ok now ∧ nameStatements now rest = (later, none) ∧ all = named :: later := by
  rw [nameStatements]
  cases hnamed : statement.named with
  | error error => simp
  | ok named =>
    cases hreserve : named.reserve taken with
    | error error => simp [hreserve]
    | ok now =>
      simp only [hreserve, Prod.mk.injEq, Except.ok.injEq]
      constructor
      · rintro ⟨rfl, hnone⟩
        exact ⟨named, now, _, rfl, hreserve, Prod.ext rfl hnone, rfl⟩
      · rintro ⟨_, _, later, rfl, hnow, hlater, rfl⟩
        rw [hreserve] at hnow
        rw [Except.ok.inj hnow, hlater]
        exact ⟨rfl, rfl⟩

/-- All statements are named exactly if each has names and those of all of them are free. -/
theorem nameStatements_eq_iff (taken : List String) (statements : List ManifestStatement)
    (all : List NamedStatement) :
    nameStatements taken statements = (all, none) ↔
      List.Forall₂ (fun statement named => statement.named = .ok named) statements all ∧
      AreFree taken (all.flatMap NamedStatement.checkedNames) := by
  -- The names taken grow by the two of each statement, whatever its template is.
  induction statements generalizing taken all with
  | nil =>
    rw [nameStatements, List.forall₂_nil_left_iff, Prod.mk.injEq]
    constructor
    · rintro ⟨rfl, -⟩
      exact ⟨rfl, areFree_nil taken⟩
    · rintro ⟨rfl, -⟩
      exact ⟨rfl, rfl⟩
  | cons statement statements ih =>
    rw [nameStatements_cons_eq_iff]
    constructor
    · rintro ⟨named, now, later, hnamed, hreserve, hlater, rfl⟩
      obtain ⟨hfree, rfl⟩ := (reserve_eq_ok_iff taken now named).1 hreserve
      obtain ⟨hrest, hfreeLater⟩ := (ih _ later).1 hlater
      exact ⟨.cons hnamed hrest, (areFree_append_iff taken named.checkedNames _).2 ⟨hfree, hfreeLater⟩⟩
    · rintro ⟨hall, hfree⟩
      obtain ⟨named, later, hnamed, hrest, rfl⟩ := List.forall₂_cons_left_iff.1 hall
      rw [List.flatMap_cons, areFree_append_iff] at hfree
      exact ⟨named, _, later, hnamed, (reserve_eq_ok_iff taken _ named).2 ⟨hfree.1, rfl⟩,
        (ih _ later).2 ⟨hrest, hfree.2⟩, rfl⟩

/-! ## Types declared -/

def Expansion.declaredTypes (expansion : Expansion) : List Ident :=
  [expansion.host.name, expansion.declarations.target.row]

namespace Generator

variable (generator : Generator)

/-- The names of the types that a statement declares, if it can be expanded. -/
def declaredTypes (named : NamedStatement) : List Ident :=
  let target := Target.ofHost named.struct generator.visibility generator.library named.row
  [target.host, target.row]

theorem declaredTypes_of_expandStatement (named : NamedStatement) (expansion : Expansion)
    (h : generator.expandStatement named = .ok expansion) :
    expansion.declaredTypes = generator.declaredTypes named := by
  have hhost : acceptableHost (.struct (generator.host named)) = .ok (generator.host named) := rfl
  unfold expandStatement expandItem at h
  rw [hhost] at h
  obtain ⟨model, -, -, -, -, hdeclarations, hattached⟩ := (expandHost_eq_ok_iff _ _ _ expansion).1 h
  unfold Expansion.declaredTypes declaredTypes
  rw [hattached, attach_eq, hdeclarations]
  rfl

/-- The two names checked are those of the types declared. -/
theorem checkedNames_eq (named : NamedStatement) (h : named.struct.raw = false) :
    named.checkedNames = (generator.declaredTypes named).map Ident.text := by
  unfold NamedStatement.checkedNames NamedStatement.rowText declaredTypes Target.ofHost
  cases named.row with
  | some row => rfl
  | none => simp [usualRowName, Ident.plain, Ident.text, h]

theorem raw_of_mem_declaredTypes (named : NamedStatement) (h : named.struct.raw = false) (type : Ident)
    (htype : type ∈ generator.declaredTypes named) (hraw : type.raw = true) : named.row = some type := by
  unfold declaredTypes Target.ofHost at htype
  rcases List.mem_pair.1 htype with rfl | hrow
  · rw [h] at hraw
    exact absurd hraw (by simp)
  · cases hgiven : named.row with
    | some row =>
      rw [hgiven] at hrow
      rw [hrow, Option.getD_some]
    | none =>
      rw [hgiven] at hrow
      rw [hrow] at hraw
      exact absurd hraw (by simp [usualRowName, Ident.plain])

end Generator

/-! ## Identifiers -/

theorem eq_of_name_eq (a b : Ident) (h : a.name = b.name) (hraw : a.raw = b.raw) : a = b := by
  cases a
  cases b
  simp_all

theorem eq_plain_of_raw (a : Ident) (h : a.raw = false) : a = .plain a.name :=
  eq_of_name_eq a (.plain a.name) rfl h

/-- Identifiers that are written differently have different names, without `r#`, exactly if none with `r#` is there
without it too. -/
theorem nodup_names_iff (idents : List Ident) (h : (idents.map Ident.text).Nodup) :
    (idents.map Ident.name).Nodup ↔ ∀ ident ∈ idents, ident.raw = true → Ident.plain ident.name ∉ idents := by
  have hnodup : idents.Nodup := List.Nodup.of_map _ h
  constructor
  · intro hnames ident hident hraw hplain
    have hsame := List.inj_on_of_nodup_map hnames hident hplain rfl
    rw [hsame] at hraw
    exact absurd hraw (by simp [Ident.plain])
  · intro hplain
    refine hnodup.map_on ?_
    intro a ha b hb hname
    cases hrawA : a.raw with
    | false =>
      cases hrawB : b.raw with
      | false => exact eq_of_name_eq a b hname (hrawA.trans hrawB.symm)
      | true =>
        rw [eq_plain_of_raw a hrawA, hname] at ha
        exact absurd ha (hplain b hb hrawB)
    | true =>
      cases hrawB : b.raw with
      | false =>
        rw [eq_plain_of_raw b hrawB, ← hname] at hb
        exact absurd hb (hplain a ha hrawA)
      | true => exact eq_of_name_eq a b hname (hrawA.trans hrawB.symm)

/-! ## All types of a manifest -/

/-- How the types of statements with an outcome are named. -/
structure DeclaresApart (generator : Generator) (statements : List ManifestStatement) (all : List NamedStatement) :
    Prop where
  names : List.Forall₂ (fun statement named => statement.named = .ok named) statements all
  count : (all.flatMap generator.declaredTypes).length = 2 * statements.length
  /-- What is checked is what is declared. -/
  checked : ∀ named ∈ all, named.checkedNames = (generator.declaredTypes named).map Ident.text
  declared : ∀ named ∈ all, ∀ expansion, generator.expandStatement named = .ok expansion →
    expansion.declaredTypes = generator.declaredTypes named
  /-- No two types are written with one name. -/
  written : ((all.flatMap generator.declaredTypes).map Ident.text).Nodup
  /-- No two types have one name, unless it is given to a row type with `r#` and another type has it without. -/
  named_iff : ((all.flatMap generator.declaredTypes).map Ident.name).Nodup ↔
    ∀ named ∈ all, ∀ row, named.row = some row → row.raw = true →
      Ident.plain row.name ∉ all.flatMap generator.declaredTypes

theorem nameStatements_of_generate (generator : Generator) (statements : List ManifestStatement) (outcome : Outcome)
    (h : generator.generate statements = .ok outcome) :
    ∃ all, nameStatements [] statements = (all, none) := by
  unfold Generator.generate at h
  split at h
  · exact absurd h (by simp)
  · exact ⟨_, ‹_›⟩

theorem exists_left_of_mem {α β : Type} {R : α → β → Prop} {as : List α} {bs : List β} (h : List.Forall₂ R as bs) {b : β}
    (hb : b ∈ bs) : ∃ a ∈ as, R a b := by
  induction h with
  | nil => exact absurd hb (by simp)
  | @cons a first as bs hfirst _ ih =>
    rcases List.mem_cons.1 hb with rfl | hb
    · exact ⟨a, List.mem_cons_self, hfirst⟩
    · obtain ⟨found, hmem, hfound⟩ := ih hb
      exact ⟨found, List.mem_cons_of_mem _ hmem, hfound⟩

theorem structs_not_raw (statements : List ManifestStatement) (all : List NamedStatement)
    (h : List.Forall₂ (fun statement named => statement.named = .ok named) statements all) :
    ∀ named ∈ all, named.struct.raw = false := by
  intro named hnamed
  obtain ⟨statement, -, hname⟩ := exists_left_of_mem h hnamed
  exact struct_not_raw statement named hname

theorem length_declaredTypes (generator : Generator) (all : List NamedStatement) :
    (all.flatMap generator.declaredTypes).length = 2 * all.length := by
  induction all with
  | nil => rfl
  | cons named all ih =>
    rw [List.flatMap_cons, List.length_append, ih, List.length_cons]
    change 2 + 2 * all.length = 2 * (all.length + 1)
    omega

theorem row_mem_declaredTypes (generator : Generator) (all : List NamedStatement) (named : NamedStatement)
    (hnamed : named ∈ all) (row : Ident) (hrow : named.row = some row) :
    row ∈ all.flatMap generator.declaredTypes := by
  refine List.mem_flatMap.2 ⟨named, hnamed, ?_⟩
  simp [Generator.declaredTypes, Target.ofHost, hrow]

theorem declaresApart (generator : Generator) (statements : List ManifestStatement) (all : List NamedStatement)
    (h : nameStatements [] statements = (all, none)) : DeclaresApart generator statements all := by
  obtain ⟨hnames, hfree⟩ := (nameStatements_eq_iff [] statements all).1 h
  have hplain := structs_not_raw statements all hnames
  have hchecked : ∀ named ∈ all, named.checkedNames = (generator.declaredTypes named).map Ident.text := by
    intro named hnamed
    exact generator.checkedNames_eq named (hplain named hnamed)
  have hwritten : ((all.flatMap generator.declaredTypes).map Ident.text).Nodup := by
    rw [List.map_flatMap, ← List.flatMap_congr hchecked]
    exact hfree.distinct
  refine ⟨hnames, ?_, hchecked, ?_, hwritten, ?_⟩
  · rw [length_declaredTypes, hnames.length_eq]
  · intro named _ expansion hexpand
    exact generator.declaredTypes_of_expandStatement named expansion hexpand
  · rw [nodup_names_iff _ hwritten]
    constructor
    · intro hraw named hnamed row hrow
      exact hraw row (row_mem_declaredTypes generator all named hnamed row hrow)
    · intro hrows type htype hraw
      obtain ⟨named, hnamed, hmem⟩ := List.mem_flatMap.1 htype
      exact hrows named hnamed type (generator.raw_of_mem_declaredTypes named (hplain named hnamed) type hmem hraw) hraw

/-- When there is an outcome, the types of all statements are named as `DeclaresApart` says. -/
theorem generate_declares_apart (generator : Generator) (statements : List ManifestStatement) (outcome : Outcome)
    (h : generator.generate statements = .ok outcome) : ∃ all, DeclaresApart generator statements all := by
  obtain ⟨all, hall⟩ := nameStatements_of_generate generator statements outcome h
  exact ⟨all, declaresApart generator statements all hall⟩

/-! ## One statement -/

section
variable (generator : Generator) (named : NamedStatement)

theorem expandStatement_of_compile {model : Model} (h : compile named.statement.sql = .ok model) :
    generator.expandStatement named = expandModel (generator.host named) model (generator.options named) :=
  expandHost_of_compile h

theorem expandStatement_of_compile_error {error : StatementError} (h : compile named.statement.sql = .error error) :
    generator.expandStatement named = .error error :=
  expandHost_of_compile_error h

variable {named}

theorem generate_singleton {statement : ManifestStatement} {taken : List String} (hnamed : statement.named = .ok named)
    (hfree : named.reserve [] = .ok taken) :
    generator.generate [statement] = generator.conclude [generator.attempt named] := by
  simp only [Generator.generate, nameStatements, hnamed, hfree, List.map_cons, List.map_nil]

end

def usualGenerator : Generator :=
  ⟨usualLibrary, .pub, [.ofNames false ["Debug"], .ofNames false ["Clone"]], false⟩

theorem DeclaresApart.eq_singleton {statement : ManifestStatement} {named : NamedStatement} {all : List NamedStatement}
    (h : DeclaresApart usualGenerator [statement] all) (hnamed : statement.named = .ok named) : all = [named] := by
  obtain ⟨found, rest, hfound, hrest, rfl⟩ := List.forall₂_cons_left_iff.1 h.names
  rw [hnamed] at hfound
  rw [Except.ok.inj hfound, List.forall₂_nil_left_iff.1 hrest]

/-- The row type is given a keyword as its name, with `r#`. -/
def keywordRow : ManifestStatement :=
  ⟨"find_users", "\x7b", some "r#match", none⟩

def keywordRowNamed : NamedStatement :=
  ⟨keywordRow, ⟨"FindUsers", false⟩, some ⟨"match", true⟩⟩

theorem keywordRow_named : keywordRow.named = .ok keywordRowNamed :=
  named_of_isAsciiName (by decide) (by decide) (by decide)
    (rowIdent_of_parse rfl (Source.parse_ident_raw "match" (by decide) (by decide)))

theorem compile_openBrace : compile "\x7b" = .error (.malformedTemplate ⟨.unterminatedHole, ⟨0, 1⟩⟩) :=
  (compile_ofList _).trans (by decide +kernel)

theorem generate_keywordRow : usualGenerator.generate [keywordRow] = .ok (.rejected
    [⟨"find_users", "\x7b", (StatementError.malformedTemplate ⟨.unterminatedHole, ⟨0, 1⟩⟩).diagnostic⟩]) := by
  rw [generate_singleton usualGenerator keywordRow_named rfl, Generator.attempt,
    expandStatement_of_compile_error usualGenerator keywordRowNamed compile_openBrace]
  rfl

/-- A name with `r#` that no other type has is not in the way. -/
theorem generate_declares_apart_keyword :
    ∃ failures, usualGenerator.generate [keywordRow] = .ok (.rejected failures) ∧
      DeclaresApart usualGenerator [keywordRow] [keywordRowNamed] ∧
      ((usualGenerator.declaredTypes keywordRowNamed).map Ident.name).Nodup := by
  obtain ⟨all, hall⟩ := generate_declares_apart usualGenerator [keywordRow] _ generate_keywordRow
  obtain rfl := hall.eq_singleton keywordRow_named
  refine ⟨_, generate_keywordRow, hall, ?_⟩
  have hapart := hall.named_iff.2
  simp only [List.flatMap_cons, List.flatMap_nil, List.append_nil] at hapart
  apply hapart
  intro named hnamed row hrow _
  obtain rfl := List.mem_singleton.1 hnamed
  obtain rfl := Option.some.inj hrow
  decide

/-- The row type is given the name of the struct, with `r#`. -/
def rawRow : ManifestStatement :=
  ⟨"users", "SELECT {id, i64}", some "r#Users", none⟩

def rawRowNamed : NamedStatement :=
  ⟨rawRow, ⟨"Users", false⟩, some ⟨"Users", true⟩⟩

theorem rawRow_named : rawRow.named = .ok rawRowNamed :=
  named_of_isAsciiName (by decide) (by decide) (by decide)
    (rowIdent_of_parse rfl (Source.parse_ident_raw "Users" (by decide) (by decide)))

theorem exists_module (result : Except GenerateError Outcome)
    (h : (match result with | .ok (.module _) => true | _ => false) = true) : ∃ text, result = .ok (.module text) := by
  split at h
  · exact ⟨_, rfl⟩
  · exact absurd h (by simp)

/-- A module can have a struct `Users` and a row type `r#Users`. -/
theorem generate_declares_same_name :
    ∃ text, usualGenerator.generate [rawRow] = .ok (.module text) ∧
      ∃ all, List.Forall₂ (fun statement named => statement.named = .ok named) [rawRow] all ∧
        ¬ ((all.flatMap usualGenerator.declaredTypes).map Ident.name).Nodup := by
  obtain ⟨text, htext⟩ := exists_module (usualGenerator.generate [rawRow]) (by decide +kernel)
  exact ⟨text, htext, [rawRowNamed], .cons rawRow_named .nil, by decide⟩

end TypedStatement
