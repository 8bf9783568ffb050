import TypedStatement.Expansion
import TypedStatement.Proofs.Declarations.Fields
import TypedStatement.Proofs.Model.Parts

/-!
# The problem that is reported

An item and a template can have many problems.  They are looked for in a fixed order of stages, and at a stage from the
front of the template; the first one found is reported, and there is an expansion exactly if there is none at any stage.
`HasProblem` says what a problem of each stage is without following the expansion, and `expand_reports_first` is the
main statement.
-/

namespace TypedStatement
set_option autoImplicit false

open Source (Host Item Token)

/-! ## Problems -/

/-- Where problems are looked for. -/
inductive Stage where
  /-- The item is not a struct. -/
  | kind
  | generics
  | tuple
  /-- The template cannot be read. -/
  | reading
  | holes
  | columns
  | parameters
  /-- A parameter and a field of the host have one name. -/
  | host
  deriving DecidableEq

/-- The stages in the order in which they are gone through. -/
def Stage.all : List Stage :=
  [.kind, .generics, .tuple, .reading, .holes, .columns, .parameters, .host]

/-- The parts of a template, one for each of its segments. -/
def HasParts (template : String) (parts : List Part) : Prop :=
  ∃ segments, Template.scan template = .ok segments ∧ List.Forall₂ Part.Of segments parts

/-- The host has a field with the name of the parameter; `r#` is no part of a name. -/
def IsTaken (host : Host) (bind : Bind) (error : StatementError) : Prop :=
  (∃ field ∈ host.fields.toList, field.name.name = bind.name) ∧
    error = .duplicateField bind.name .bind (some bind.range)

/-- The first problem that a stage has. -/
def HasProblem (item : Item) (template : String) : Stage → StatementError → Prop
  | .kind, error => ∃ introducer tokens, item = .other introducer tokens ∧ error = .invalidDeclaration introducer
  | .generics, error => ∃ host, item = .struct host ∧ host.parameters ≠ [] ∧ error = .unsupportedDeclaration .generic
  | .tuple, error => ∃ host content, item = .struct host ∧ host.fields = .tuple content ∧
    error = .unsupportedDeclaration .tuple
  | .reading, error => ∃ malformed, Template.scan template = .error malformed ∧ error = .malformedTemplate malformed
  | .holes, error => ∃ segments, Template.scan template = .ok segments ∧
    FirstFault (fun _ => IsRefused) segments error
  | .columns, error => ∃ parts, HasParts template parts ∧
    FirstFault (RequestFault .column) ((partColumns parts).map Column.fieldRequest) error
  | .parameters, error => ∃ parts, HasParts template parts ∧
    FirstFault (RequestFault .bind) ((partBinds parts).map Bind.fieldRequest) error
  | .host, error => ∃ host parts, item = .struct host ∧ HasParts template parts ∧
    FirstFault (fun _ => IsTaken host) (partBinds parts) error

/-! ## Templates -/

theorem compile_of_hasParts {template : String} {parts : List Part} (h : HasParts template parts) :
    compile template = .ok (Model.ofParts parts) := by
  obtain ⟨segments, hscan, hparts⟩ := h
  exact (compile_eq_ok_iff template _).2 ⟨segments, parts, hscan, hparts, rfl⟩

/-- What is said of the parts of a template that is compiled is said of its model. -/
theorem exists_hasParts_iff {template : String} {model : Model} (h : compile template = .ok model)
    (P : List Column → List Bind → Prop) :
    (∃ parts, HasParts template parts ∧ P (partColumns parts) (partBinds parts)) ↔ P model.columns model.binds := by
  constructor
  · rintro ⟨parts, hparts, hP⟩
    rw [compile_of_hasParts hparts] at h
    rw [← Except.ok.inj h]
    exact hP
  · intro hP
    obtain ⟨segments, parts, hscan, hparts, rfl⟩ := (compile_eq_ok_iff template model).1 h
    exact ⟨parts, ⟨segments, hscan, hparts⟩, hP⟩

/-! ## Fields of the host -/

theorem isTaken_iff (host : Host) (bind : Bind) (error : StatementError) :
    IsTaken host bind error ↔ host.fieldNames.contains bind.name = true ∧
      error = .duplicateField bind.name .bind (some bind.range) := by
  simp only [IsTaken, Host.fieldNames, List.contains_eq_mem, List.mem_map, decide_eq_true_eq]

/-- The first parameter with the name of a field is the one that clashes. -/
theorem firstTaken_iff (host : Host) (binds : List Bind) (error : StatementError) :
    FirstFault (fun _ => IsTaken host) binds error ↔
      ∃ bind, clash? host.fieldNames binds = some bind ∧ error = .duplicateField bind.name .bind (some bind.range) := by
  induction binds with
  | nil => simp [clash?, firstFault_nil]
  | cons bind binds ih =>
    unfold clash? at ih ⊢
    cases htaken : host.fieldNames.contains bind.name with
    | true =>
      have hunique : ∀ other, IsTaken host bind other ↔
          other = .duplicateField bind.name .bind (some bind.range) := by
        intro other
        rw [isTaken_iff, htaken, eq_self_iff_true, true_and]
      rw [List.find?_cons, htaken, firstFault_cons_of_eq _ _ _ _ error hunique]
      simp
    | false =>
      have hnone : ∀ other, ¬ IsTaken host bind other := by
        intro other
        rw [isTaken_iff, htaken]
        simp
      rw [List.find?_cons, htaken, firstFault_cons_of_not _ _ _ _ hnone]
      exact ih

/-! ## From stage to stage -/

/-- What a host becomes with the model of a template. -/
def expandModel (host : Host) (model : Model) (options : ExpandOptions) : Except StatementError Expansion :=
  match Declarations.emit model (.ofHost host.name host.visibility options.library options.row) with
  | .error error => .error error
  | .ok declarations =>
    match clash? host.fieldNames model.binds with
    | some bind => .error (.duplicateField bind.name .bind (some bind.range))
    | none => .ok ⟨host.attach declarations.hostFields, declarations⟩

/-- When the template is compiled, only its model matters. -/
theorem expandHost_of_compile {host : Host} {template : String} {model : Model} {options : ExpandOptions}
    (h : compile template = .ok model) : expandHost host template options = expandModel host model options := by
  rw [expandHost, h]
  rfl

theorem expandHost_of_compile_error {host : Host} {template : String} {error : StatementError} {options : ExpandOptions}
    (h : compile template = .error error) : expandHost host template options = .error error := by
  rw [expandHost, h]

section
variable (host : Host) (template : String)

/-- When the template is compiled, the problems left are those of the fields. -/
theorem firstProblem_of_compile (model : Model) (hcompile : compile template = .ok model) (options : ExpandOptions)
    (error : StatementError) :
    expandHost host template options = .error error ↔
      FirstFault (fun _ => HasProblem (.struct host) template) [.columns, .parameters, .host] error := by
  have hcolumns : ∀ other, HasProblem (.struct host) template .columns other ↔
      Field.ofRequests .column [] (model.columns.map Column.fieldRequest) = .error other := by
    intro other
    rw [ofRequests_nil_eq_error_iff]
    exact exists_hasParts_iff hcompile fun columns _ =>
      FirstFault (RequestFault .column) (columns.map Column.fieldRequest) other
  have hparameters : ∀ other, HasProblem (.struct host) template .parameters other ↔
      Field.ofRequests .bind [] (model.binds.map Bind.fieldRequest) = .error other := by
    intro other
    rw [ofRequests_nil_eq_error_iff]
    exact exists_hasParts_iff hcompile fun _ binds =>
      FirstFault (RequestFault .bind) (binds.map Bind.fieldRequest) other
  have hhost : ∀ other, HasProblem (.struct host) template .host other ↔
      ∃ bind, clash? host.fieldNames model.binds = some bind ∧
        other = .duplicateField bind.name .bind (some bind.range) := by
    intro other
    rw [← firstTaken_iff, ← exists_hasParts_iff hcompile fun _ binds => FirstFault (fun _ => IsTaken host) binds other]
    simp [HasProblem]
  rw [expandHost_of_compile hcompile]
  -- All columns are looked at before any parameter, even one that stands left of them.
  cases hrow : Field.ofRequests .column [] (model.columns.map Column.fieldRequest) with
  | error found =>
    rw [firstFault_cons_of_error hcolumns hrow]
    simp only [expandModel, Declarations.emit, hrow]
    exact error_eq_error_iff found error
  | ok rowFields =>
    rw [firstFault_cons_of_ok hcolumns hrow]
    cases hbound : Field.ofRequests .bind [] (model.binds.map Bind.fieldRequest) with
    | error found =>
      rw [firstFault_cons_of_error hparameters hbound]
      simp only [expandModel, Declarations.emit, hrow, hbound]
      exact error_eq_error_iff found error
    | ok boundFields =>
      rw [firstFault_cons_of_ok hparameters hbound, firstFault_cons, hhost]
      simp only [expandModel, Declarations.emit, hrow, hbound]
      cases clash? host.fieldNames model.binds with
      | some bind => simp [firstFault_nil, eq_comm]
      | none => simp [firstFault_nil]

/-- On an acceptable host the problems are those of the template and of its fields. -/
theorem expandHost_eq_error_iff (options : ExpandOptions) (error : StatementError) :
    expandHost host template options = .error error ↔
      FirstFault (fun _ => HasProblem (.struct host) template) [.reading, .holes, .columns, .parameters, .host]
        error := by
  cases hscan : Template.scan template with
  | error malformed =>
    have hunique : ∀ other, HasProblem (.struct host) template .reading other ↔
        other = .malformedTemplate malformed := by
      intro other
      simp [HasProblem, hscan]
    rw [firstFault_cons_of_eq _ _ _ _ error hunique, expandHost, compile, hscan]
    exact error_eq_error_iff _ error
  | ok segments =>
    have hread : ∀ other, ¬ HasProblem (.struct host) template .reading other := by
      intro other
      simp [HasProblem, hscan]
    have hholes : ∀ other, HasProblem (.struct host) template .holes other ↔ compile template = .error other := by
      intro other
      rw [compile, hscan]
      change _ ↔ Model.empty.extend segments = .error other
      rw [Model.extend_eq_error_iff]
      simp [HasProblem, hscan]
    rw [firstFault_cons_of_not _ _ _ _ hread]
    cases hcompile : compile template with
    | error found =>
      rw [firstFault_cons_of_error hholes hcompile, expandHost, hcompile]
      exact error_eq_error_iff found error
    | ok model =>
      rw [firstFault_cons_of_ok hholes hcompile]
      exact firstProblem_of_compile host template model hcompile options error

end

theorem acceptableHost_generic (host : Host) (h : host.parameters ≠ []) :
    acceptableHost (.struct host) = .error (.unsupportedDeclaration .generic) := by
  rw [acceptableHost, if_pos (by simpa using h)]

theorem acceptableHost_tuple (host : Host) (content : List Token) (hplain : host.parameters = [])
    (h : host.fields = .tuple content) : acceptableHost (.struct host) = .error (.unsupportedDeclaration .tuple) := by
  rw [acceptableHost, if_neg (by simp [hplain]), h]

theorem acceptableHost_named (host : Host) (hplain : host.parameters = [])
    (h : ∀ content, host.fields ≠ .tuple content) : acceptableHost (.struct host) = .ok host := by
  rw [acceptableHost, if_neg (by simp [hplain])]
  split
  · rename_i content hfields
    exact absurd hfields (h content)
  · rfl

theorem expandItem_eq_error_iff (item : Item) (template : String) (options : ExpandOptions) (error : StatementError) :
    expandItem item template options = .error error ↔
      FirstFault (fun _ => HasProblem item template) Stage.all error := by
  unfold expandItem Stage.all
  cases item with
  | other introducer tokens =>
    have hunique : ∀ other, HasProblem (.other introducer tokens) template .kind other ↔
        other = .invalidDeclaration introducer := by
      intro other
      simp [HasProblem]
    rw [firstFault_cons_of_eq _ _ _ _ error hunique]
    exact error_eq_error_iff _ error
  | struct host =>
    have hstruct : ∀ other, ¬ HasProblem (.struct host) template .kind other := by
      intro other
      simp [HasProblem]
    rw [firstFault_cons_of_not _ _ _ _ hstruct]
    by_cases hplain : host.parameters = []
    · have hnone : ∀ other, ¬ HasProblem (.struct host) template .generics other := by
        intro other
        simp [HasProblem, hplain]
      rw [firstFault_cons_of_not _ _ _ _ hnone]
      by_cases htuple : ∃ content, host.fields = .tuple content
      · have hunique : ∀ other, HasProblem (.struct host) template .tuple other ↔
            other = .unsupportedDeclaration .tuple := by
          intro other
          simp [HasProblem, htuple]
        obtain ⟨content, hcontent⟩ := htuple
        rw [firstFault_cons_of_eq _ _ _ _ error hunique, acceptableHost_tuple host content hplain hcontent]
        exact error_eq_error_iff _ error
      · have hnamed : ∀ other, ¬ HasProblem (.struct host) template .tuple other := by
          intro other
          simpa [HasProblem] using fun content hcontent _ => htuple ⟨content, hcontent⟩
        rw [firstFault_cons_of_not _ _ _ _ hnamed,
          acceptableHost_named host hplain fun content hcontent => htuple ⟨content, hcontent⟩]
        exact expandHost_eq_error_iff host template options error
    · have hunique : ∀ other, HasProblem (.struct host) template .generics other ↔
          other = .unsupportedDeclaration .generic := by
        intro other
        simp [HasProblem, hplain]
      rw [firstFault_cons_of_eq _ _ _ _ error hunique, acceptableHost_generic host hplain]
      exact error_eq_error_iff _ error

/-! ## What is reported -/

/-- The item can carry a statement, whatever the statement is. -/
def IsAcceptable (item : Item) : Prop :=
  ∃ host, item = .struct host ∧ host.parameters = [] ∧ ∀ content, host.fields ≠ .tuple content

/-- The stages before the template is read see the item only. -/
theorem acceptableHost_of_not_isAcceptable (item : Item) (h : ¬ IsAcceptable item) :
    ∃ error, acceptableHost item = .error error := by
  cases item with
  | other introducer tokens => exact ⟨_, rfl⟩
  | struct host =>
    by_cases hplain : host.parameters = []
    · obtain ⟨content, hcontent⟩ : ∃ content, host.fields = .tuple content := by
        by_contra hnamed
        exact h ⟨host, rfl, hplain, fun content hcontent => hnamed ⟨content, hcontent⟩⟩
      exact ⟨_, acceptableHost_tuple host content hplain hcontent⟩
    · exact ⟨_, acceptableHost_generic host hplain⟩

section
variable {item : Item} {template : String} {options : ExpandOptions}

theorem expandItem_of_host {host : Host} (h : acceptableHost item = .ok host) :
    expandItem item template options = expandHost host template options := by
  rw [expandItem, h]

theorem expandItem_of_error {error : StatementError} (h : acceptableHost item = .error error) :
    expandItem item template options = .error error := by
  rw [expandItem, h]

theorem expand_eq :
    expand item template options =
      ((expandItem item template options).map Expansion.tokens).mapError StatementError.diagnostic := by
  unfold expand
  cases expandItem item template options <;> rfl

end

theorem expand_of_not_isAcceptable (item : Item) (h : ¬ IsAcceptable item) (template template' : String)
    (options options' : ExpandOptions) : expand item template' options' = expand item template options := by
  obtain ⟨error, herror⟩ := acceptableHost_of_not_isAcceptable item h
  rw [expand_eq, expand_eq, expandItem_of_error herror, expandItem_of_error herror]

theorem expand_of_compile {host : Host} {template : String} {model : Model}
    (hhost : acceptableHost (.struct host) = .ok host) (hcompile : compile template = .ok model) (options : ExpandOptions) :
    expand (.struct host) template options =
      ((expandModel host model options).map Expansion.tokens).mapError StatementError.diagnostic := by
  rw [expand_eq, expandItem_of_host hhost, expandHost_of_compile hcompile]

theorem expand_of_compile_error {host : Host} {template : String} {error : StatementError}
    (hhost : acceptableHost (.struct host) = .ok host) (hcompile : compile template = .error error) (options : ExpandOptions) :
    expand (.struct host) template options = .error error.diagnostic := by
  rw [expand_eq, expandItem_of_host hhost, expandHost_of_compile_error hcompile]
  rfl

theorem expand_eq_error_iff (item : Item) (template : String) (options : ExpandOptions) (diagnostic : Diagnostic) :
    expand item template options = .error diagnostic ↔
      ∃ error, expandItem item template options = .error error ∧ diagnostic = error.diagnostic := by
  rw [expand_eq]
  cases expandItem item template options with
  | error error => simp [Except.map, Except.mapError, eq_comm]
  | ok expansion => simp [Except.map, Except.mapError]

theorem expand_eq_ok_iff (item : Item) (template : String) (options : ExpandOptions) :
    (∃ tokens, expand item template options = .ok tokens) ↔
      ¬ ∃ error, expandItem item template options = .error error := by
  rw [expand_eq]
  cases expandItem item template options with
  | error error => simp [Except.map, Except.mapError]
  | ok expansion => simp [Except.map, Except.mapError]

theorem Stage.mem_all (stage : Stage) : stage ∈ Stage.all := by
  cases stage <;> decide

/-- Some stage has a first problem exactly if some stage has a problem. -/
theorem exists_firstProblem_iff (item : Item) (template : String) :
    (∃ error, FirstFault (fun _ => HasProblem item template) Stage.all error) ↔
      ∃ stage error, HasProblem item template stage error := by
  rw [exists_firstFault_iff]
  constructor
  · rintro ⟨_, stage, _, error, -, hproblem⟩
    exact ⟨stage, error, hproblem⟩
  · rintro ⟨stage, error, hproblem⟩
    obtain ⟨before, after, hsplit⟩ := List.append_of_mem stage.mem_all
    exact ⟨before, stage, after, error, hsplit, hproblem⟩

/-- The diagnostic is that of the first problem of the first stage that has one, and there is an expansion exactly if no
stage has any.  For an item that cannot carry a statement the template and the options make no difference. -/
theorem expand_reports_first (item : Item) (template : String) (options : ExpandOptions) :
    (∀ diagnostic, expand item template options = .error diagnostic ↔
      ∃ error, FirstFault (fun _ => HasProblem item template) Stage.all error ∧ diagnostic = error.diagnostic) ∧
    ((∃ tokens, expand item template options = .ok tokens) ↔ ∀ stage error, ¬ HasProblem item template stage error) ∧
    (¬ IsAcceptable item → ∀ template' options', expand item template' options' = expand item template options) := by
  refine ⟨?_, ?_, ?_⟩
  · intro diagnostic
    rw [expand_eq_error_iff]
    simp only [expandItem_eq_error_iff]
  · rw [expand_eq_ok_iff]
    simp only [expandItem_eq_error_iff]
    rw [exists_firstProblem_iff]
    simp only [not_exists]
  · intro h template' options'
    exact expand_of_not_isAcceptable item h template template' options options'

/-- A struct with a field `r#id`. -/
def identified : Host :=
  ⟨[], .inherited, .plain "Users", [], [], .named [⟨[], .inherited, ⟨"id", true⟩, [.word "i64"]⟩] false⟩

/-- A parameter without the name of a field, one that the host has a field for, and a column and a repeated one after
them. -/
def crowdedText : String := "{bind: 1, i64}{bind: id, i64}{count(*), i64}{n, i64}{n, i32}"

theorem expand_identified_taken : expand (.struct identified) "{bind: id, i64}" ⟨usualLibrary, none⟩ =
    .error (StatementError.duplicateField "id" .bind (some ⟨0, 15⟩)).diagnostic := by
  have hcompile : compile "{bind: id, i64}" = .ok ⟨"$1", [], [⟨"id", ⟨"i64", .int64, false⟩, ⟨0, 15⟩⟩]⟩ :=
    (compile_ofList _).trans (by decide +kernel)
  exact (expand_of_compile rfl hcompile _).trans rfl

def crowdedModel : Model where
  sql := "$1$2count(*)nn"
  columns := [⟨"count(*)", ⟨"i64", .int64, false⟩, none, ⟨29, 44⟩⟩, ⟨"n", ⟨"i64", .int64, false⟩, none, ⟨44, 52⟩⟩,
    ⟨"n", ⟨"i32", .int32, false⟩, none, ⟨52, 60⟩⟩]
  binds := [⟨"1", ⟨"i64", .int64, false⟩, ⟨0, 14⟩⟩, ⟨"id", ⟨"i64", .int64, false⟩, ⟨14, 29⟩⟩]

def enumeration : Item := .other (some "enum") [.word "enum", .word "Users", .braces []]

theorem expand_reports_first_crowded :
    (∃ error, FirstFault (fun _ => HasProblem (.struct identified) crowdedText) Stage.all error ∧
      error.diagnostic = (StatementError.invalidFieldName "count(*)" .column ⟨29, 44⟩).diagnostic) ∧
    (∃ stage error, HasProblem (.struct identified) "{bind: id, i64}" stage error) ∧
    (∀ stage error, ¬ HasProblem (.struct identified) "{bind: id_, i64}" stage error) ∧
    ¬ IsAcceptable enumeration ∧
    ∀ template options, expand enumeration template options = expand enumeration crowdedText ⟨usualLibrary, none⟩ := by
  have hcompile : compile crowdedText = .ok crowdedModel := (compile_ofList _).trans (by decide +kernel)
  have hcrowded : expand (.struct identified) crowdedText ⟨usualLibrary, none⟩ =
      .error (StatementError.invalidFieldName "count(*)" .column ⟨29, 44⟩).diagnostic :=
    (expand_of_compile rfl hcompile _).trans rfl
  have hother : compile "{bind: id_, i64}" = .ok ⟨"$1", [], [⟨"id_", ⟨"i64", .int64, false⟩, ⟨0, 16⟩⟩]⟩ :=
    (compile_ofList _).trans (by decide +kernel)
  obtain ⟨found, hfree⟩ : ∃ tokens, expand (.struct identified) "{bind: id_, i64}" ⟨usualLibrary, none⟩ = .ok tokens :=
    ⟨_, (expand_of_compile rfl hother _).trans rfl⟩
  have hno : ¬ IsAcceptable enumeration := by
    rintro ⟨host, hhost, -⟩
    exact absurd hhost (by simp [enumeration])
  refine ⟨?_, ?_, ?_, hno, ?_⟩
  · obtain ⟨error, hfirst, heq⟩ := ((expand_reports_first _ _ _).1 _).1 hcrowded
    exact ⟨error, hfirst, heq.symm⟩
  · by_contra hnone
    obtain ⟨tokens, htokens⟩ := (expand_reports_first (.struct identified) "{bind: id, i64}" ⟨usualLibrary, none⟩).2.1.2
      fun stage error hproblem => hnone ⟨stage, error, hproblem⟩
    rw [expand_identified_taken] at htokens
    exact absurd htokens (by simp)
  · exact (expand_reports_first _ _ ⟨usualLibrary, none⟩).2.1.1 ⟨found, hfree⟩
  · intro template options
    exact (expand_reports_first enumeration crowdedText ⟨usualLibrary, none⟩).2.2 hno template options

end TypedStatement
