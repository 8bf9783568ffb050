import TypedStatement.Generator.Outcome
import TypedStatement.Proofs.Diagnostic.Place
import TypedStatement.Proofs.Expansion.FirstProblem
import TypedStatement.Proofs.Generator.Names
import TypedStatement.Proofs.Template.Faults

/-!
# Failures that are shown

Whatever is wrong with a template lies in it: the range of the error begins at a character of the template that is not white
space, and what is printed marks this character.  A problem of any stage after those of the item is visible
(`HasProblem.isVisible`), and so is what is reported by the compiler, the declarations, the expansion, and the generator
(`failures_are_shown`).
-/

namespace TypedStatement
set_option autoImplicit false

open Source (Item)
open Template (Argument Hole Segment)
open Text (ByteRange isWhiteSpace utf8Length)

/-! ## Ranges of holes -/

/-- The range is that of the hole or of one of its arguments. -/
def Template.Hole.HasRange (hole : Hole) (range : ByteRange) : Prop :=
  range = hole.range ∨ ∃ argument ∈ hole.arguments, range = argument.range

theorem range_of_classifyAlias (column : String) (argument : Argument) (error : StatementError)
    (h : classifyAlias column argument = .error error) : error.range? = some argument.range := by
  unfold classifyAlias at h
  split at h
  · split at h
    · split at h
      · rw [← Except.error.inj h]
        rfl
      · exact absurd h (by simp)
    · rw [← Except.error.inj h]
      rfl
  · rw [← Except.error.inj h]
    rfl

theorem ranges_of_classifyColumn (range : ByteRange) (name : String) (type : TypeRef) (arguments : List Argument) :
    (∀ error, classifyColumn range name type arguments = .error error →
      ∃ argument ∈ arguments, error.range? = some argument.range) ∧
    ∀ column, classifyColumn range name type arguments = .ok column → column.range = range := by
  cases arguments with
  | nil => exact ⟨nofun, fun column h => by rw [← Except.ok.inj h]⟩
  | cons third later =>
    rw [classifyColumn]
    split
    · rename_i found hfound
      refine ⟨fun error h => ?_, nofun⟩
      rw [← Except.error.inj h]
      exact ⟨third, List.mem_cons_self, range_of_classifyAlias name third found hfound⟩
    · cases later with
      | nil => exact ⟨nofun, fun column h => by rw [← Except.ok.inj h]⟩
      | cons fourth rest =>
        refine ⟨fun error h => ?_, nofun⟩
        rw [← Except.error.inj h]
        exact ⟨fourth, List.mem_cons_of_mem _ List.mem_cons_self, rfl⟩

/-- The hole that a column or a parameter was made from. -/
def Classified.range : Classified → ByteRange
  | .column found => found.range
  | .bind found => found.range

/-- A problem of a hole is in the hole, and what the hole stands for has its range. -/
theorem ranges_of_classify (hole : Hole) :
    (∀ error, classify hole = .error error → ∃ range, error.range? = some range ∧ hole.HasRange range) ∧
    ∀ classified, classify hole = .ok classified → classified.range = hole.range := by
  unfold classify
  split
  · rename_i first second later harguments
    have hfirst : first ∈ hole.arguments := by
      rw [harguments]
      exact List.mem_cons_self
    dsimp only
    split
    · refine ⟨fun error h => ?_, nofun⟩
      rw [← Except.error.inj h]
      exact ⟨hole.range, rfl, .inl rfl⟩
    · split
      · refine ⟨fun error h => ?_, nofun⟩
        rw [← Except.error.inj h]
        exact ⟨first.range, rfl, .inr ⟨first, hfirst, rfl⟩⟩
      · split
        · refine ⟨nofun, fun classified h => ?_⟩
          rw [← Except.ok.inj h]
          rfl
        · constructor
          · intro error h
            obtain ⟨argument, hmem, hrange⟩ := (ranges_of_classifyColumn _ _ _ _).1 error ((map_eq_error_iff _ _ _).1 h)
            refine ⟨argument.range, hrange, .inr ⟨argument, ?_, rfl⟩⟩
            rw [harguments]
            exact List.mem_cons_of_mem _ (List.mem_cons_of_mem _ hmem)
          · intro classified h
            obtain ⟨column, hcolumn, rfl⟩ := (map_eq_ok_iff _ _ _).1 h
            exact (ranges_of_classifyColumn _ _ _ _).2 column hcolumn
  · refine ⟨fun error h => ?_, nofun⟩
    rw [← Except.error.inj h]
    exact ⟨hole.range, rfl, .inl rfl⟩

/-! ## Problems of a template -/

/-- The error points to something visible in the template. -/
def StatementError.IsVisible (error : StatementError) (template : String) : Prop :=
  ∃ range, error.range? = some range ∧ range.IsVisible template.toList

theorem isVisible_of_classify_error (template : String) (segments : List Segment) (hole : Hole) (error : StatementError)
    (hscan : Template.scan template = .ok segments) (hmem : Segment.hole hole ∈ segments)
    (h : classify hole = .error error) : error.IsVisible template := by
  obtain ⟨hhole, harguments⟩ := Template.isVisible_of_scan template segments hscan hole hmem
  obtain ⟨range, hrange, rfl | ⟨argument, hargument, rfl⟩⟩ := (ranges_of_classify hole).1 error h
  · exact ⟨hole.range, hrange, hhole⟩
  · exact ⟨argument.range, hrange, harguments argument hargument⟩

theorem isVisible_of_part (template : String) (parts : List Part) (h : HasParts template parts) (classified : Classified)
    (hmem : Part.ofClassified classified ∈ parts) : classified.range.IsVisible template.toList := by
  obtain ⟨segments, hscan, hparts⟩ := h
  -- a column or a parameter has the range of its hole
  obtain ⟨segment, hsegment, hpart⟩ := exists_left_of_mem hparts hmem
  generalize hsame : Part.ofClassified classified = part at hpart
  cases hpart with
  | literal text => cases classified <;> exact absurd hsame (by simp [Part.ofClassified])
  | hole hole found hfound =>
    have hclassified : classified = found := by
      cases classified <;> cases found <;> simp_all [Part.ofClassified]
    rw [hclassified, (ranges_of_classify hole).2 found hfound]
    exact (Template.isVisible_of_scan template segments hscan hole hsegment).1

theorem isVisible_of_requestFault (template : String) (kind : HoleKind) (requests : List FieldRequest)
    (error : StatementError) (hrequests : ∀ request ∈ requests, request.range.IsVisible template.toList)
    (h : FirstFault (RequestFault kind) requests error) : error.IsVisible template := by
  obtain ⟨before, request, after, rfl, hfault, -⟩ := h
  have hrequest := hrequests request (List.mem_append_right _ List.mem_cons_self)
  cases hfault with
  | invalid _ => exact ⟨request.range, rfl, hrequest⟩
  | repeated _ _ => exact ⟨request.range, rfl, hrequest⟩

section
variable {template : String} {error : StatementError}

theorem isVisible_of_refused {segments : List Segment} (hscan : Template.scan template = .ok segments)
    (h : FirstFault (fun _ => IsRefused) segments error) : error.IsVisible template := by
  obtain ⟨before, segment, after, hsplit, ⟨hole, rfl, hrefused⟩, -⟩ := h
  refine isVisible_of_classify_error template segments hole error hscan ?_ hrefused
  rw [hsplit]
  exact List.mem_append_right _ List.mem_cons_self

theorem isVisible_of_columnFault {parts : List Part} (hparts : HasParts template parts)
    (h : FirstFault (RequestFault .column) ((partColumns parts).map Column.fieldRequest) error) :
    error.IsVisible template := by
  refine isVisible_of_requestFault template .column _ error ?_ h
  refine List.forall_mem_map.2 fun column hmem => ?_
  exact isVisible_of_part template parts hparts (.column column) ((mem_partColumns_iff parts column).1 hmem)

theorem isVisible_of_bindFault {parts : List Part} (hparts : HasParts template parts)
    (h : FirstFault (RequestFault .bind) ((partBinds parts).map Bind.fieldRequest) error) :
    error.IsVisible template := by
  refine isVisible_of_requestFault template .bind _ error ?_ h
  refine List.forall_mem_map.2 fun bind hmem => ?_
  exact isVisible_of_part template parts hparts (.bind bind) ((mem_partBinds_iff parts bind).1 hmem)

/-- On an acceptable item the problems of all stages are visible in the template. -/
theorem HasProblem.isVisible {item : Item} {stage : Stage} (h : HasProblem item template stage error)
    (hacceptable : IsAcceptable item) : error.IsVisible template := by
  obtain ⟨host, rfl, hplain, hnamed⟩ := hacceptable
  cases stage with
  | kind =>
    obtain ⟨introducer, tokens, hother, -⟩ := h
    exact absurd hother (by simp)
  | generics =>
    obtain ⟨other, hhost, hgeneric, -⟩ := h
    rw [← Item.struct.inj hhost] at hgeneric
    exact absurd hplain hgeneric
  | tuple =>
    obtain ⟨other, content, hhost, htuple, -⟩ := h
    rw [← Item.struct.inj hhost] at htuple
    exact absurd htuple (hnamed content)
  | reading =>
    obtain ⟨malformed, hscan, rfl⟩ := h
    exact ⟨malformed.range, rfl, Template.isVisible_of_scan_error template malformed hscan⟩
  | holes =>
    obtain ⟨segments, hscan, hrefused⟩ := h
    exact isVisible_of_refused hscan hrefused
  | columns =>
    obtain ⟨parts, hparts, hfault⟩ := h
    exact isVisible_of_columnFault hparts hfault
  | parameters =>
    obtain ⟨parts, hparts, hfault⟩ := h
    exact isVisible_of_bindFault hparts hfault
  | host =>
    obtain ⟨other, parts, -, hparts, before, bind, after, hsplit, ⟨-, rfl⟩, -⟩ := h
    have hmem : bind ∈ partBinds parts := by
      rw [hsplit]
      exact List.mem_append_right _ List.mem_cons_self
    exact ⟨bind.range, rfl, isVisible_of_part template parts hparts (.bind bind) ((mem_partBinds_iff parts bind).1 hmem)⟩

/-! ## What is reported -/

theorem isVisible_of_compile_error (h : compile template = .error error) : error.IsVisible template := by
  unfold compile at h
  split at h
  · rename_i malformed hscan
    rw [← Except.error.inj h]
    exact ⟨malformed.range, rfl, Template.isVisible_of_scan_error template malformed hscan⟩
  · rename_i segments hscan
    exact isVisible_of_refused hscan ((Model.extend_eq_error_iff segments .empty error).1 h)

theorem isVisible_of_emit_error {model : Model} {target : Target} (hcompile : compile template = .ok model)
    (h : Declarations.emit model target = .error error) : error.IsVisible template := by
  obtain ⟨segments, parts, hscan, hparts, rfl⟩ := (compile_eq_ok_iff template model).1 hcompile
  have hall : HasParts template parts := ⟨segments, hscan, hparts⟩
  unfold Declarations.emit at h
  split at h
  · rename_i found hfound
    rw [← Except.error.inj h]
    exact isVisible_of_columnFault hall ((ofRequests_nil_eq_error_iff _ _ found).1 hfound)
  · split at h
    · rename_i found hfound
      rw [← Except.error.inj h]
      exact isVisible_of_bindFault hall ((ofRequests_nil_eq_error_iff _ _ found).1 hfound)
    · exact absurd h (by simp)

theorem isVisible_of_expandItem_error {item : Item} {options : ExpandOptions} (hacceptable : IsAcceptable item)
    (h : expandItem item template options = .error error) : error.IsVisible template := by
  obtain ⟨_, stage, _, -, hproblem, -⟩ := (expandItem_eq_error_iff item template options error).1 h
  exact hproblem.isVisible hacceptable

end

theorem exists_statement_of_rejected (generator : Generator) (statements : List ManifestStatement)
    (failures : List Failure) (h : generator.generate statements = .ok (.rejected failures)) (failure : Failure)
    (hmem : failure ∈ failures) : ∃ statement ∈ statements, ∃ named error, statement.named = .ok named ∧
      generator.expandStatement named = .error error ∧
      failure = ⟨statement.name, statement.sql, error.diagnostic⟩ := by
  unfold Generator.generate at h
  split at h
  · exact absurd h (by simp)
  · rename_i all hall
    obtain ⟨hnames, -⟩ := (nameStatements_eq_iff [] statements all).1 hall
    have hfailure : failure ∈ (all.map generator.attempt).filterMap Attempt.failure? := by
      unfold Generator.conclude at h
      split at h
      · obtain ⟨text, -, htext⟩ := (map_eq_ok_iff _ _ _).1 h
        exact absurd htext (by simp)
      · rename_i first rest hfailures
        rw [hfailures, Outcome.rejected.inj (Except.ok.inj h)]
        exact hmem
    obtain ⟨attempt, hattempt, hfails⟩ := List.mem_filterMap.1 hfailure
    obtain ⟨named, hnamed, rfl⟩ := List.mem_map.1 hattempt
    obtain ⟨statement, hstatement, hname⟩ := exists_left_of_mem hnames hnamed
    unfold Attempt.failure? at hfails
    split at hfails
    · exact absurd hfails (by simp)
    · rename_i error herror
      refine ⟨statement, hstatement, named, error, hname, herror, ?_⟩
      rw [← ((named_eq_ok_iff statement named).1 hname).1]
      exact (Option.some.inj hfails).symm

theorem isAcceptable_host (generator : Generator) (named : NamedStatement) :
    IsAcceptable (.struct (generator.host named)) :=
  ⟨generator.host named, rfl, rfl, by simp [Generator.host]⟩

/-! ## What is shown -/

/-- The diagnostic is shown against the template at a place. -/
structure Diagnostic.IsShownAt (diagnostic : Diagnostic) (template : String) (range : ByteRange) (location : Location) :
    Prop where
  present : diagnostic.range = some range
  nonempty : range.start < range.stop
  within : range.stop ≤ utf8Length template.toList
  /-- The range lies between characters, and the place is that of its first character. -/
  first : ∃ c rest, range.textIn? template.toList = some (c :: rest) ∧ isWhiteSpace c = false ∧
    location.IsOf template.toList range c
  located : locate template.toList range = some location
  printed : ∀ origin, PrintsPlace origin location (diagnostic.render origin template)

def Diagnostic.IsShownIn (diagnostic : Diagnostic) (template : String) : Prop :=
  ∃ range location, diagnostic.IsShownAt template range location

theorem StatementError.IsVisible.isShownIn {error : StatementError} {template : String} (h : error.IsVisible template) :
    error.diagnostic.IsShownIn template := by
  obtain ⟨range, hrange, c, rest, htext, hvisible⟩ := h
  have hc : c ≠ '\n' := by
    rintro rfl
    exact absurd hvisible (by decide)
  obtain ⟨location, hlocation, hplace⟩ := exists_locate template.toList rest range c htext hc
  obtain ⟨before, after, hsplit, hstart, hstop⟩ := (Text.textIn?_eq_some_iff range _ _).1 htext
  have hpositive := c.utf8Size_pos
  have hlength := congrArg utf8Length hsplit
  rw [Text.utf8Length_append, Text.utf8Length_append] at hlength
  rw [Text.utf8Length_cons] at hlength hstop
  refine ⟨range, location, hrange, by omega, by omega, ⟨c, rest, htext, hvisible, hplace⟩, hlocation, ?_⟩
  exact fun origin => printsPlace_render error.diagnostic origin template range location hrange hlocation

/-- Every failure found in a template is shown in it.  The failures of the generator are shown in the templates they are
recorded with, and these are the templates of their statements. -/
theorem failures_are_shown :
    (∀ template error, compile template = .error error → error.diagnostic.IsShownIn template) ∧
    (∀ template model target error, compile template = .ok model → Declarations.emit model target = .error error →
      error.diagnostic.IsShownIn template) ∧
    (∀ item template options diagnostic, IsAcceptable item → expand item template options = .error diagnostic →
      diagnostic.IsShownIn template) ∧
    (∀ (generator : Generator) statements failures, generator.generate statements = .ok (.rejected failures) →
      ∀ failure ∈ failures, failure.diagnostic.IsShownIn failure.template ∧
        ∃ statement ∈ statements, failure.statement = statement.name ∧ failure.template = statement.sql) := by
  refine ⟨?_, ?_, ?_, ?_⟩
  · intro template error h
    exact (isVisible_of_compile_error h).isShownIn
  · intro template model target error hcompile h
    exact (isVisible_of_emit_error hcompile h).isShownIn
  · intro item template options diagnostic hacceptable h
    obtain ⟨error, herror, rfl⟩ := (expand_eq_error_iff item template options diagnostic).1 h
    exact (isVisible_of_expandItem_error hacceptable herror).isShownIn
  · intro generator statements failures h failure hmem
    obtain ⟨statement, hstatement, named, error, hname, herror, rfl⟩ :=
      exists_statement_of_rejected generator statements failures h failure hmem
    refine ⟨?_, statement, hstatement, rfl, rfl⟩
    rw [← ((named_eq_ok_iff statement named).1 hname).1]
    exact (isVisible_of_expandItem_error (isAcceptable_host generator named) herror).isShownIn

/-- The second of two columns with one name, on the second line. -/
def repeatedText : String := "SELECT {n, i64},\n  {n, i32}"

def repeatedModel : Model :=
  ⟨"SELECT n,\n  n", [⟨"n", ⟨"i64", .int64, false⟩, none, ⟨7, 15⟩⟩, ⟨"n", ⟨"i32", .int32, false⟩, none, ⟨19, 27⟩⟩], []⟩

def repeatedTarget : Target :=
  .ofHost (.plain "Users") .inherited usualLibrary none

/-- A hole that is not closed, two columns with one name, a parameter that the host has a field for, and a manifest with a
statement that cannot be read. -/
theorem failures_are_shown_everySource :
    (∃ error, compile "SELECT 'é' \x7bid" = .error error ∧ error.diagnostic.IsShownIn "SELECT 'é' \x7bid") ∧
    (∃ model error, compile repeatedText = .ok model ∧ Declarations.emit model repeatedTarget = .error error ∧
      error.diagnostic.IsShownIn repeatedText) ∧
    (∃ diagnostic, expand (.struct identified) "{bind: id, i64}" ⟨usualLibrary, none⟩ = .error diagnostic ∧
      diagnostic.IsShownIn "{bind: id, i64}") ∧
    (∃ failure, usualGenerator.generate [keywordRow] = .ok (.rejected [failure]) ∧
      failure.diagnostic.IsShownIn failure.template) := by
  have hopen : compile "SELECT 'é' \x7bid" = .error (.malformedTemplate ⟨.unterminatedHole, ⟨12, 15⟩⟩) :=
    (compile_ofList _).trans (by decide +kernel)
  have hmodel : compile repeatedText = .ok repeatedModel := (compile_ofList _).trans (by decide +kernel)
  have htwice : Declarations.emit repeatedModel repeatedTarget = .error (.duplicateField "n" .column (some ⟨19, 27⟩)) := rfl
  have hacceptable : IsAcceptable (.struct identified) := ⟨identified, rfl, rfl, by simp [identified]⟩
  refine ⟨⟨_, hopen, failures_are_shown.1 _ _ hopen⟩,
    ⟨_, _, hmodel, htwice, failures_are_shown.2.1 _ _ repeatedTarget _ hmodel htwice⟩,
    ⟨_, expand_identified_taken, failures_are_shown.2.2.1 _ _ _ _ hacceptable expand_identified_taken⟩, ⟨_, generate_keywordRow, ?_⟩⟩
  exact (failures_are_shown.2.2.2 usualGenerator _ _ generate_keywordRow _ List.mem_cons_self).1

end TypedStatement
