import TypedStatement.Attribute.Expand
import TypedStatement.Proofs.Attribute.Arguments
import TypedStatement.Proofs.Declarations.Calls
import TypedStatement.Proofs.Generator.Names
import TypedStatement.Proofs.Source.LiteralRules
import TypedStatement.Proofs.Source.UnitStruct

/-!
# The attribute and the generator agree

The generator expands a statement of a manifest on a struct that it makes, the attribute expands a template on a struct that
is written.  Put on the tokens of the generator's struct, with arguments that say the same template, crate and row name, the
attribute makes the same tokens; and where the generator reports a diagnostic, it leaves the struct as it is and adds the
compile errors of that diagnostic (`attribute_agrees_with_generator`).
-/

namespace TypedStatement
set_option autoImplicit false

open Attribute (GivesCrate GivesRow WrittenSetting readArguments writtenArguments)
open Source (Host Ident IsAttribute Item Path Token Visibility unitStruct)
open Source.Token (AreQuiet Occurs areQuiet_flatMap)

/-! ## The struct of a statement -/

namespace Generator

variable (generator : Generator)

/-- What stands in the attributes of the struct of a statement. -/
def attributeInsides (statement : ManifestStatement) : List (List Token) :=
  statement.docLines.map (fun line => [Token.word "doc", Token.mark '=', .literal (Source.StringLiteral.encode line)]) ++
    match generator.derives with
    | [] => []
    | first :: rest => [[Token.word "derive", Token.parens (pathList (first :: rest))]]

theorem host_eq (named : NamedStatement) :
    generator.host named =
      unitStruct (generator.attributeInsides named.statement) generator.visibility named.struct := by
  have hattributes : named.statement.docLines.flatMap docAttribute ++ deriveAttribute generator.derives =
      (generator.attributeInsides named.statement).flatMap Token.hashBrackets := by
    rw [attributeInsides, List.flatMap_append, List.flatMap_map]
    congr 1
    cases generator.derives <;> rfl
  rw [host, hattributes, unitStruct]

theorem isAttribute_of_mem (statement : ManifestStatement) :
    ∀ inside ∈ generator.attributeInsides statement, IsAttribute inside := by
  unfold attributeInsides
  rw [List.forall_mem_append, List.forall_mem_map]
  refine ⟨fun line _ => Source.isAttribute_doc _, ?_⟩
  cases generator.derives with
  | nil => simp
  | cons first rest =>
    rw [List.forall_mem_singleton]
    exact Source.isAttribute_derive _

theorem areQuiet_pathList (paths : List Path) (h : ∀ path ∈ paths, AreQuiet path.tokens) : AreQuiet (pathList paths) := by
  induction paths with
  | nil => rfl
  | cons path later ih =>
    rw [List.forall_mem_cons] at h
    cases later with
    | nil => exact h.1
    | cons next rest => simp [pathList, h.1, ih h.2]

theorem areQuiet_attributes (statement : ManifestStatement) (h : ∀ path ∈ generator.derives, AreQuiet path.tokens) :
    AreQuiet ((generator.attributeInsides statement).flatMap Token.hashBrackets) := by
  rw [areQuiet_flatMap, attributeInsides, List.forall_mem_append, List.forall_mem_map]
  refine ⟨fun line _ => by simp, ?_⟩
  have hpaths := areQuiet_pathList generator.derives h
  cases hderives : generator.derives with
  | nil => simp
  | cons first rest =>
    rw [hderives] at hpaths
    simpa using hpaths

theorem ofSettings_eq_ok {generator : Generator} {settings : GeneratorSettings} (h : ofSettings settings = .ok generator) :
    Path.parse settings.cratePath = .ok generator.library ∧
      Visibility.parse settings.visibility = .ok generator.visibility := by
  unfold ofSettings at h
  cases hlibrary : Path.parse settings.cratePath with
  | error cause =>
    rw [hlibrary] at h
    cases h
  | ok library =>
    cases hvisible : Visibility.parse settings.visibility with
    | error cause =>
      rw [hlibrary, hvisible] at h
      cases h
    | ok visible =>
      rw [hlibrary, hvisible] at h
      obtain ⟨derives, -, rfl⟩ := (map_eq_ok_iff _ _ _).1 h
      exact ⟨rfl, rfl⟩

end Generator

theorem areQuiet_visibility (visible : Visibility) (h : visible.IsWritable) : AreQuiet visible.tokens := by
  cases h with
  | inherited => rfl
  | pub => rfl
  | word hname => rfl
  | @path leading first names hnames =>
    have hpath : AreQuiet (Source.Reader.moduleOf leading (first :: names)).tokens := by
      rw [areQuiet_path, Source.Reader.moduleOf, List.forall_mem_map]
      exact fun name _ => rfl
    simpa [Visibility.tokens] using hpath

theorem rel_row_of_rowIdent {statement : ManifestStatement} {row : Option Ident} (h : statement.rowIdent = .ok row) :
    Option.Rel (fun text row => Ident.parse text = .ok row) statement.row row := by
  unfold ManifestStatement.rowIdent at h
  cases hrow : statement.row with
  | none =>
    rw [hrow] at h
    obtain rfl := Except.ok.inj h
    exact .none
  | some text =>
    simp only [hrow] at h
    cases hident : Ident.parse text with
    | error cause =>
      rw [hident] at h
      cases h
    | ok ident =>
      rw [hident] at h
      obtain rfl := Except.ok.inj h
      exact .some hident

/-! ## Words that introduce declarations -/

/-- The words outside groups that introduce a struct, another name for a type, or an implementation. -/
def introducers (tokens : List Token) : List Token :=
  tokens.filter fun token => ["struct", "type", "impl"].any (token.isWord ·)

theorem introducers_attributes (insides : List (List Token)) : introducers (insides.flatMap Token.hashBrackets) = [] := by
  unfold introducers
  rw [List.filter_flatMap, List.flatMap_eq_nil_iff]
  exact fun inside _ => rfl

theorem introducers_visibility (visible : Visibility) : introducers visible.tokens = [] := by
  cases visible <;> rfl

theorem introducers_compileErrors (messages : List String) : introducers (messages.flatMap compileError) = [] := by
  unfold introducers
  rw [List.filter_flatMap, List.flatMap_eq_nil_iff]
  exact fun message _ => rfl

/-- A unit struct declares nothing else. -/
theorem introducers_unitStruct (insides : List (List Token)) (visible : Visibility) (name : Ident)
    (hname : name.isUsable = true) : introducers (unitStruct insides visible name).tokens = [Token.word "struct"] := by
  have hother : (["struct", "type", "impl"].any ((Token.ident name).isWord ·)) = false := by
    rw [List.any_eq_false]
    intro word hword hsame
    obtain rfl := beq_iff_eq.1 hsame
    have hkeyword : ∀ keyword ∈ ["struct", "type", "impl"], (Ident.plain keyword).isUsable = false := by decide
    rw [hkeyword word hword] at hname
    exact absurd hname (by decide)
  rw [Source.unitStruct_tokens, introducers, List.filter_append, List.filter_append]
  have hattributes := introducers_attributes insides
  have hvisible := introducers_visibility visible
  unfold introducers at hattributes hvisible
  rw [hattributes, hvisible, List.filter_cons_of_pos rfl, List.filter_cons_of_neg (by rw [hother]; decide)]
  rfl

/-! ## The attribute on the struct of a statement -/

/-- What the attribute makes of the struct of a statement, compared with what the generator makes of the statement. -/
structure Agrees (generator : Generator) (named : NamedStatement) (arguments : List Token) : Prop where
  /-- The same tokens, and nothing is reported. -/
  success : ∀ expansion, generator.expandStatement named = .ok expansion →
    Attribute.expand arguments (generator.host named).tokens = .ok expansion.tokens ∧
    expandInto [] (.struct (generator.host named)) named.statement.sql (generator.options named) = (expansion.tokens, [])
  /-- There is no compile error among them, unless paths of the settings have macro calls. -/
  silent : ∀ expansion, generator.expandStatement named = .ok expansion → AreQuiet generator.library.tokens →
    (∀ path ∈ generator.derives, AreQuiet path.tokens) → ∀ message, ¬ Occurs (compileError message) expansion.tokens
  /-- The struct as it is and the compile errors of the same diagnostic, and nothing else is declared. -/
  failure : ∀ error, generator.expandStatement named = .error error →
    ∃ tokens messages, Attribute.expand arguments (generator.host named).tokens = .ok tokens ∧
      tokens = (generator.host named).tokens ++ messages.flatMap compileError ∧
      messages = [error.diagnostic.message] ++ (error.diagnostic.note.map ("note: " ++ ·)).toList ++
        (error.diagnostic.fixIt.map ("help: " ++ ·.message)).toList ∧
      introducers tokens = [Token.word "struct"]

section
variable {generator : Generator} {named : NamedStatement}

/-- The attribute reads the struct of a statement as it is. -/
theorem ofTokens?_host (hvisible : generator.visibility.IsWritable) (hname : named.struct.isUsable = true) :
    Item.ofTokens? (generator.host named).tokens = .ok (.struct (generator.host named)) := by
  rw [generator.host_eq]
  exact Source.ofTokens?_unitStruct _ _ _ (generator.isAttribute_of_mem _) hvisible hname

theorem expandInto_of_ok {expansion : Expansion} (h : generator.expandStatement named = .ok expansion) :
    expandInto [] (.struct (generator.host named)) named.statement.sql (generator.options named) =
      (expansion.tokens, []) := by
  unfold Generator.expandStatement at h
  rw [expandInto, expand, h]

theorem expandInto_of_error {error : StatementError} (h : generator.expandStatement named = .error error) :
    expandInto [] (.struct (generator.host named)) named.statement.sql (generator.options named) =
      ((generator.host named).tokens, [error.diagnostic]) := by
  unfold Generator.expandStatement at h
  rw [expandInto, expand, h]
  rfl

variable {arguments : List Token} (hread : readArguments arguments = .ok ⟨named.statement.sql, generator.options named⟩)
  (hvisible : generator.visibility.IsWritable) (hname : named.struct.isUsable = true)
include hread hvisible hname

theorem attributeExpand_eq : Attribute.expand arguments (generator.host named).tokens =
    .ok (Attribute.expandArguments ⟨named.statement.sql, generator.options named⟩ (.struct (generator.host named))) := by
  rw [Attribute.expand, hread]
  simp only [ofTokens?_host hvisible hname]

theorem agrees : Agrees generator named arguments where
  success expansion hexpand := by
    have hinto := expandInto_of_ok hexpand
    refine ⟨?_, hinto⟩
    rw [attributeExpand_eq hread hvisible hname, Attribute.expandArguments, hinto]
    simp
  silent expansion hexpand hlibrary hderives := by
    have hattributes : AreQuiet (generator.host named).attributes := by
      rw [generator.host_eq]
      exact generator.areQuiet_attributes named.statement hderives
    exact not_occurs_compileError (areQuiet_expansion (generator.host named) _ _ expansion hexpand rfl rfl rfl hattributes
      (areQuiet_visibility _ hvisible) hlibrary)
  failure error hexpand := by
    have hinto := expandInto_of_error hexpand
    refine ⟨_, error.diagnostic.errorMessages, ?_, rfl, rfl, ?_⟩
    · rw [attributeExpand_eq hread hvisible hname, Attribute.expandArguments, hinto]
      simp [Diagnostic.compileErrors]
    · rw [introducers, List.filter_append, ← introducers, ← introducers, introducers_compileErrors, generator.host_eq,
        introducers_unitStruct _ _ _ hname, List.append_nil]

end

/-- The attribute and the generator agree on every statement whose names are accepted, under settings that are accepted.  With
any arguments that are read as the template, the path and the row name of the statement, the attribute does to the struct of
the statement what the generator does (`Agrees`).  String literals with the texts of the manifest are such arguments, in
either order, and the path may be left out where it is the usual one. -/
theorem attribute_agrees_with_generator (settings : GeneratorSettings) (generator : Generator)
    (statement : ManifestStatement) (named : NamedStatement) (hsettings : Generator.ofSettings settings = .ok generator)
    (hnamed : statement.named = .ok named) :
    (∀ arguments, readArguments arguments = .ok ⟨statement.sql, generator.library, named.row⟩ →
      Agrees generator named arguments) ∧
    ∀ (literal : String) (first second written : List WrittenSetting),
      Source.StringLiteral.value? literal = some statement.sql → GivesCrate settings.cratePath first →
      GivesRow statement.row second → (written = first ++ second ∨ written = second ++ first) →
        readArguments (writtenArguments literal written) = .ok ⟨statement.sql, generator.library, named.row⟩ := by
  obtain ⟨hlibrary, hvisible⟩ := Generator.ofSettings_eq_ok hsettings
  obtain ⟨rfl, hstruct, hrow⟩ := (named_eq_ok_iff statement named).1 hnamed
  refine ⟨?_, ?_⟩
  · intro arguments hread
    exact agrees hread (Source.Reader.isWritable_of_parse _ _ hvisible) ((Source.parse_ident_eq_ok_iff _ _).1 hstruct).2
  · intro literal first second written htemplate hfirst hsecond hwritten
    exact Attribute.readArguments_eq_ok htemplate hfirst hlibrary hsecond (rel_row_of_rowIdent hrow) hwritten

def crateSettings : GeneratorSettings := ⟨"crate::db", "pub(in super::api)", ["Debug", "serde::Serialize"], true⟩

/-- A statement with a row name and two lines of documentation, which is expanded. -/
def fetchUser : ManifestStatement :=
  ⟨"fetch_user", "SELECT \x7bid, i64\x7d WHERE id = \x7bbind: id, i64\x7d", some "User", some "One user.\nBy \"number\"."⟩

def fetchUserNamed : NamedStatement := ⟨fetchUser, ⟨"FetchUser", false⟩, some ⟨"User", false⟩⟩

/-- A statement with a column that needs an alias. -/
def countUsers : ManifestStatement := ⟨"count_users", "SELECT \x7bcount(*), i64\x7d", none, none⟩

def countUsersNamed : NamedStatement := ⟨countUsers, ⟨"CountUsers", false⟩, none⟩

def needsAlias : StatementError := .invalidFieldName "count(*)" .column ⟨7, 22⟩

theorem expandStatement_fetchUser (generator : Generator) :
    ∃ expansion, generator.expandStatement fetchUserNamed = .ok expansion := by
  have hcompile : compile fetchUser.sql = .ok ⟨"SELECT id WHERE id = $1", [⟨"id", ⟨"i64", .int64, false⟩, none, ⟨7, 16⟩⟩],
      [⟨"id", ⟨"i64", .int64, false⟩, ⟨28, 43⟩⟩]⟩ := (compile_ofList _).trans (by decide +kernel)
  exact ⟨_, (expandStatement_of_compile generator fetchUserNamed hcompile).trans rfl⟩

theorem expandStatement_countUsers (generator : Generator) :
    generator.expandStatement countUsersNamed = .error needsAlias := by
  have hcompile : compile countUsers.sql = .ok ⟨"SELECT count(*)", [⟨"count(*)", ⟨"i64", .int64, false⟩, none, ⟨7, 22⟩⟩], []⟩ :=
    (compile_ofList _).trans (by decide +kernel)
  exact (expandStatement_of_compile generator countUsersNamed hcompile).trans rfl

theorem attribute_agrees_with_generator_users : ∃ generator,
    Generator.ofSettings crateSettings = .ok generator ∧
    (∃ expansion, generator.expandStatement fetchUserNamed = .ok expansion ∧
      Attribute.expand (writtenArguments (Source.StringLiteral.encode fetchUser.sql)
        [⟨"row", "r\"User\""⟩, ⟨"crate", "\"crate::\\x64b\""⟩]) (generator.host fetchUserNamed).tokens =
          .ok expansion.tokens) ∧
    ∃ tokens, Attribute.expand (writtenArguments (Source.StringLiteral.encode countUsers.sql)
        [⟨"crate", "\"crate::db\""⟩]) (generator.host countUsersNamed).tokens = .ok tokens ∧
      tokens = (generator.host countUsersNamed).tokens ++
        (compileError "'count(*)' is not a valid field name for column" ++
          compileError "note: name the field with an alias, e.g. `\x7bcount(*), i64, as: total\x7d`") := by
  obtain ⟨generator, hsettings⟩ := (error?_eq_none_iff (Generator.ofSettings crateSettings)).1 (by decide +kernel)
  have hfetch : fetchUser.named = .ok fetchUserNamed := named_of_isAsciiName (by decide) (by decide) (by decide)
    (rowIdent_of_parse rfl (Source.parse_ident_name (by decide) (by decide)))
  have hcount : countUsers.named = .ok countUsersNamed := named_of_isAsciiName (by decide) (by decide) (by decide) rfl
  refine ⟨generator, hsettings, ?_, ?_⟩
  · obtain ⟨hagrees, hwritten⟩ := attribute_agrees_with_generator _ generator _ _ hsettings hfetch
    obtain ⟨expansion, hexpand⟩ := expandStatement_fetchUser generator
    have hread := hwritten (Source.StringLiteral.encode fetchUser.sql) [⟨"crate", "\"crate::\\x64b\""⟩] [⟨"row", "r\"User\""⟩] _
      (Source.StringLiteral.value?_encode _) (.given (by decide)) (.given (by decide)) (.inr rfl)
    exact ⟨expansion, hexpand, ((hagrees _ hread).success expansion hexpand).1⟩
  · obtain ⟨hagrees, hwritten⟩ := attribute_agrees_with_generator _ generator _ _ hsettings hcount
    have hread := hwritten (Source.StringLiteral.encode countUsers.sql) [⟨"crate", "\"crate::db\""⟩] [] _
      (Source.StringLiteral.value?_encode _) (.given (by decide)) .none (.inl rfl)
    obtain ⟨tokens, messages, htokens, hsplit, hmessages, -⟩ :=
      (hagrees _ hread).failure needsAlias (expandStatement_countUsers generator)
    refine ⟨tokens, htokens, ?_⟩
    rw [hsplit, hmessages]
    rfl

end TypedStatement
