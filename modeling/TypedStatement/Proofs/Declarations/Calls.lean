import TypedStatement.Proofs.Expansion.Host

/-!
# Declarations call no macro

A compile error is a macro call, and a macro call has an exclamation mark.  What is declared for a statement has none at any
depth, unless the path of the run-time crate, the visibility or the attributes of the host have one (`areQuiet_expansion`).
-/

namespace TypedStatement
set_option autoImplicit false

open Source (Host HostField HostFields Ident Path PathSegment Token TypeExpr Visibility joinSegments)

namespace Source.Token

mutual

/-- Whether the token is an exclamation mark or has one inside. -/
def isLoud : Token → Bool
  | .punct c _ => c == '!'
  | .group _ content => areLoud content
  | .ident _ => false
  | .literal _ => false

def areLoud : List Token → Bool
  | [] => false
  | token :: rest => token.isLoud || areLoud rest

end

/-- There is no exclamation mark among the tokens, at any depth. -/
def AreQuiet (tokens : List Token) : Prop :=
  areLoud tokens = false

@[simp] theorem areQuiet_nil : AreQuiet [] := rfl

@[simp] theorem areQuiet_cons (token : Token) (rest : List Token) :
    AreQuiet (token :: rest) ↔ token.isLoud = false ∧ AreQuiet rest :=
  Bool.or_eq_false_iff

@[simp] theorem areQuiet_append (front back : List Token) :
    AreQuiet (front ++ back) ↔ AreQuiet front ∧ AreQuiet back := by
  induction front with
  | nil => simp
  | cons token front ih => rw [List.cons_append, areQuiet_cons, areQuiet_cons, ih, and_assoc]

theorem areQuiet_flatMap {α : Type} (items : List α) (tokens : α → List Token) :
    AreQuiet (items.flatMap tokens) ↔ ∀ item ∈ items, AreQuiet (tokens item) := by
  induction items with
  | nil => simp
  | cons item items ih => rw [List.flatMap_cons, areQuiet_append, ih, List.forall_mem_cons]

@[simp] theorem isLoud_ident (ident : Ident) : (Token.ident ident).isLoud = false := rfl

@[simp] theorem isLoud_word (name : String) : (word name).isLoud = false := rfl

@[simp] theorem isLoud_literal (text : String) : (Token.literal text).isLoud = false := rfl

@[simp] theorem isLoud_mark (c : Char) : (mark c).isLoud = (c == '!') := rfl

@[simp] theorem isLoud_group (delimiter : Delimiter) (content : List Token) :
    (Token.group delimiter content).isLoud = false ↔ AreQuiet content := Iff.rfl

@[simp] theorem isLoud_parens (content : List Token) : (parens content).isLoud = false ↔ AreQuiet content :=
  isLoud_group _ content

@[simp] theorem isLoud_braces (content : List Token) : (braces content).isLoud = false ↔ AreQuiet content :=
  isLoud_group _ content

@[simp] theorem areQuiet_hashBrackets (content : List Token) : AreQuiet (hashBrackets content) ↔ AreQuiet content := by
  simp [hashBrackets, brackets]

@[simp] theorem areQuiet_pathSeparator : AreQuiet pathSeparator := rfl

@[simp] theorem areQuiet_arrow : AreQuiet arrow := rfl

@[simp] theorem areQuiet_lifetime (name : String) : AreQuiet (lifetime name) := rfl

/-- The piece stands somewhere among the tokens, inside groups or not. -/
inductive Occurs (piece : List Token) : List Token → Prop
  | here (front back : List Token) : Occurs piece (front ++ piece ++ back)
  | inside {content : List Token} (front : List Token) (delimiter : Delimiter) (back : List Token) :
    Occurs piece content → Occurs piece (front ++ .group delimiter content :: back)

theorem AreQuiet.of_occurs {piece tokens : List Token} (h : AreQuiet tokens) (hoccurs : Occurs piece tokens) :
    AreQuiet piece := by
  induction hoccurs with
  | here front back =>
    rw [areQuiet_append, areQuiet_append] at h
    exact h.1.2
  | inside front delimiter back _ ih =>
    rw [areQuiet_append, areQuiet_cons, isLoud_group] at h
    exact ih h.2.1

end Source.Token

open Source.Token (AreQuiet Occurs areQuiet_flatMap)

theorem not_areQuiet_compileError (message : String) : ¬ AreQuiet (compileError message) := by
  simp [compileError]

/-- Tokens without exclamation marks have no compile errors among them. -/
theorem not_occurs_compileError {tokens : List Token} (h : AreQuiet tokens) (message : String) :
    ¬ Occurs (compileError message) tokens :=
  fun hoccurs => not_areQuiet_compileError message (h.of_occurs hoccurs)

/-! ## Paths and types -/

theorem areQuiet_joinSegments (segments : List (List Token)) :
    AreQuiet (joinSegments segments) ↔ ∀ segment ∈ segments, AreQuiet segment := by
  induction segments with
  | nil => simp [joinSegments]
  | cons segment later ih =>
    cases later with
    | nil => simp [joinSegments]
    | cons next rest =>
      change AreQuiet (segment ++ Token.pathSeparator ++ joinSegments (next :: rest)) ↔ _
      rw [Token.areQuiet_append, Token.areQuiet_append, ih, List.forall_mem_cons]
      simp

theorem areQuiet_path (path : Path) :
    AreQuiet path.tokens ↔ ∀ segment ∈ path.segments, AreQuiet segment.tokens := by
  have hleading : AreQuiet (if path.leading then Token.pathSeparator else []) := by
    cases path.leading <;> rfl
  rw [Path.tokens, Token.areQuiet_append, areQuiet_joinSegments, List.forall_mem_map]
  exact and_iff_right hleading

theorem areQuiet_plainSegment (name : String) : AreQuiet (PathSegment.tokens ⟨.plain name, none⟩) := rfl

@[simp] theorem areQuiet_ofNames (leading : Bool) (names : List String) : AreQuiet (Path.ofNames leading names).tokens := by
  rw [areQuiet_path, Path.ofNames, List.forall_mem_map]
  exact fun name _ => areQuiet_plainSegment name

@[simp] theorem areQuiet_join (path : Path) (names : List String) :
    AreQuiet (path.join names).tokens ↔ AreQuiet path.tokens := by
  rw [areQuiet_path, areQuiet_path, Path.join, List.forall_mem_append, List.forall_mem_map]
  exact and_iff_left fun name _ => areQuiet_plainSegment name

@[simp] theorem areQuiet_named (path : Path) : AreQuiet (TypeExpr.named path).tokens ↔ AreQuiet path.tokens := Iff.rfl

@[simp] theorem areQuiet_apply_one (path : Path) (argument : TypeExpr) :
    AreQuiet (TypeExpr.apply path [argument]).tokens ↔ AreQuiet path.tokens ∧ AreQuiet argument.tokens := by
  simp [TypeExpr.tokens, TypeExpr.tokensAfterComma]

@[simp] theorem areQuiet_apply_two (path : Path) (first second : TypeExpr) :
    AreQuiet (TypeExpr.apply path [first, second]).tokens ↔
      AreQuiet path.tokens ∧ AreQuiet first.tokens ∧ AreQuiet second.tokens := by
  simp [TypeExpr.tokens, TypeExpr.tokensAfterComma]

section
variable {library : Path} (hlibrary : AreQuiet library.tokens)
include hlibrary

theorem areQuiet_scalar (scalar : Scalar) : AreQuiet (scalar.typeExpr library).tokens := by
  cases scalar <;> simp [Scalar.typeExpr, hlibrary]

theorem areQuiet_typeExpr (type : TypeRef) : AreQuiet (type.typeExpr library).tokens := by
  unfold TypeRef.typeExpr
  cases type.optional <;> simp [areQuiet_scalar hlibrary type.scalar]

end

/-! ## Declarations -/

theorem areQuiet_commaAfterEach (items : List (List Token)) :
    AreQuiet (commaAfterEach items) ↔ ∀ item ∈ items, AreQuiet item := by
  rw [commaAfterEach, areQuiet_flatMap]
  simp

theorem areQuiet_record (target : Target) (hvisible : AreQuiet target.visibility.tokens)
    (fields : List (Ident × TypeExpr)) (hfields : ∀ field ∈ fields, AreQuiet field.2.tokens) :
    AreQuiet ((RowType.record fields).tokens target) := by
  have hinside : ∀ item ∈ fields.map fun field =>
      target.visibility.tokens ++ .ident field.1 :: Token.mark ':' :: field.2.tokens, AreQuiet item := by
    rw [List.forall_mem_map]
    intro field hfield
    simp [hvisible, hfields field hfield]
  simpa [RowType.tokens, Declarations.allowCapitals, hvisible] using (areQuiet_commaAfterEach _).2 hinside

section
variable (target : Target) (hlibrary : AreQuiet target.library.tokens)
include hlibrary

theorem areQuiet_emptyBindings : AreQuiet target.emptyBindings := by
  simp [Target.emptyBindings, Target.bindingsType, Target.database, rootPath, hlibrary]

theorem areQuiet_bindingStep (step : BindingStep) : AreQuiet (step.tokens target) := by
  cases step <;> simp [BindingStep.tokens, Target.database, sizeLiteral, hlibrary]

theorem areQuiet_bindingsBody (steps : List BindingStep) : AreQuiet (bindingsBody target steps) := by
  cases steps with
  | nil => simp [bindingsBody, okPath, rootPath, areQuiet_emptyBindings target hlibrary]
  | cons first rest =>
    simp [bindingsBody, okPath, rootPath, areQuiet_emptyBindings target hlibrary, areQuiet_flatMap,
      areQuiet_bindingStep target hlibrary]

theorem areQuiet_columnRead (read : ColumnRead) (hread : AreQuiet read.type.tokens) : AreQuiet (read.tokens target) := by
  simp [ColumnRead.tokens, Target.database, sizeLiteral, hlibrary, hread]

theorem areQuiet_decodeBody (reads : List ColumnRead) (hreads : ∀ read ∈ reads, AreQuiet read.type.tokens) :
    AreQuiet (decodeBody target reads) := by
  have hinside : ∀ item ∈ reads.map (ColumnRead.tokens target), AreQuiet item := by
    rw [List.forall_mem_map]
    exact fun read hread => areQuiet_columnRead target hlibrary read (hreads read hread)
  have hrecord := (areQuiet_commaAfterEach _).2 hinside
  cases reads with
  | nil => simp [decodeBody, okPath, rootPath]
  | cons first rest => simpa [decodeBody, okPath, rootPath] using hrecord

end

namespace Declarations

variable (declarations : Declarations) (hlibrary : AreQuiet declarations.target.library.tokens)
include hlibrary

theorem areQuiet_rowTypeTokens (hvisible : AreQuiet declarations.target.visibility.tokens) :
    AreQuiet declarations.rowTypeTokens := by
  unfold rowTypeTokens rowType
  cases declarations.rowFields with
  | nil => simp [RowType.tokens, hvisible]
  | cons first rest =>
    apply areQuiet_record _ hvisible
    rw [List.forall_mem_map]
    exact fun field _ => areQuiet_typeExpr hlibrary field.type

theorem areQuiet_hostFields (hvisible : AreQuiet declarations.target.visibility.tokens) :
    ∀ field ∈ declarations.hostFields, AreQuiet field.tokens := by
  unfold hostFields
  rw [List.forall_mem_map]
  intro field _
  have htype := areQuiet_typeExpr hlibrary field.type
  by_cases hcapital : hasCapital field.ident = true
  · simp [HostField.tokens, hcapital, allowCapitals, hvisible, fieldType, htype]
  · simp [HostField.tokens, hcapital, hvisible, fieldType, htype]

theorem areQuiet_bindingsTokens : AreQuiet declarations.bindingsTokens := by
  simp [bindingsTokens, Target.bindingsResult, resultOf, rootPath, Target.bindingsType, Target.database, hlibrary,
    areQuiet_bindingsBody]

theorem areQuiet_decodeTokens : AreQuiet declarations.decodeTokens := by
  have hreads : ∀ read ∈ declarations.columnReads, AreQuiet read.type.tokens := by
    unfold columnReads
    rw [List.forall_mem_map]
    exact fun pair _ => areQuiet_typeExpr hlibrary pair.1.type
  have hbody := areQuiet_decodeBody declarations.target hlibrary declarations.columnReads hreads
  simp [decodeTokens, Target.rowResult, resultOf, rootPath, Target.database, hlibrary, hbody]

theorem areQuiet_conformance : AreQuiet declarations.conformance := by
  simp [conformance, hlibrary, areQuiet_bindingsTokens, areQuiet_decodeTokens]

end Declarations

/-! ## Expansions -/

theorem areQuiet_separated (fields : List HostField) (trailingComma : Bool) (h : ∀ field ∈ fields, AreQuiet field.tokens) :
    AreQuiet (HostFields.separated fields trailingComma) := by
  induction fields with
  | nil => rfl
  | cons field later ih =>
    rw [List.forall_mem_cons] at h
    cases later with
    | nil => cases trailingComma <;> simp [HostFields.separated, h.1]
    | cons next rest => simp [HostFields.separated, h.1, ih h.2]

/-- A unit struct with quiet attributes stays quiet with fields attached. -/
theorem areQuiet_attach (host : Host) (fields : List HostField) (hparameters : host.parameters = [])
    (hconstraints : host.constraints = []) (hunit : host.fields = .unit) (hattributes : AreQuiet host.attributes)
    (hvisible : AreQuiet host.visibility.tokens) (hfields : ∀ field ∈ fields, AreQuiet field.tokens) :
    AreQuiet (host.attach fields).tokens := by
  cases fields with
  | nil => simp [attach_nil, Host.tokens, hattributes, hvisible, hparameters, hconstraints, hunit]
  | cons first rest =>
    simp [Host.attach, Host.tokens, hattributes, hvisible, hparameters, hconstraints, hunit,
      areQuiet_separated _ _ hfields]

/-- What a unit struct is expanded to calls no macro, unless what it is given does. -/
theorem areQuiet_expansion (host : Host) (template : String) (options : ExpandOptions) (expansion : Expansion)
    (h : expandHost host template options = .ok expansion) (hparameters : host.parameters = [])
    (hconstraints : host.constraints = []) (hunit : host.fields = .unit) (hattributes : AreQuiet host.attributes)
    (hvisible : AreQuiet host.visibility.tokens) (hlibrary : AreQuiet options.library.tokens) :
    AreQuiet expansion.tokens := by
  obtain ⟨model, -, -, -, -, hdeclarations, hhost⟩ := (expandHost_eq_ok_iff host template options expansion).1 h
  have htarget : expansion.declarations.target = .ofHost host.name host.visibility options.library options.row := by
    rw [hdeclarations, declarationsOf]
  have hpath : AreQuiet expansion.declarations.target.library.tokens := by
    rw [htarget]
    exact hlibrary
  have hmodifier : AreQuiet expansion.declarations.target.visibility.tokens := by
    rw [htarget]
    exact hvisible
  have hfields := expansion.declarations.areQuiet_hostFields hpath hmodifier
  rw [Expansion.tokens, hhost, Token.areQuiet_append, Token.areQuiet_append]
  exact ⟨⟨areQuiet_attach host _ hparameters hconstraints hunit hattributes hvisible hfields,
    expansion.declarations.areQuiet_rowTypeTokens hpath hmodifier⟩, expansion.declarations.areQuiet_conformance hpath⟩

end TypedStatement
