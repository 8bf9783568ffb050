import TypedStatement.Expansion
import TypedStatement.Proofs.Expansion.FirstProblem
import TypedStatement.Proofs.Expansion.Host
import TypedStatement.Proofs.Model.Quoted
import TypedStatement.Proofs.Model.Spelling

/-!
# Layout and spelling do not reach the output

Two templates with the same literal text and holes that are alike are expanded together: either both are, to the same
tokens, or neither is, and what is reported differs in its range at most (`expand_ignores_spelling`).

Each stage of the expansion is run twice, on inputs that are alike: `Together` says how the two results compare, and
there is one lemma for each stage.
-/

namespace TypedStatement
set_option autoImplicit false

open Source (Host HostField Ident Item Path Token TypeExpr)
open Template (AreSafe ArgumentDraft Hole HoleDraft Segment SegmentDraft draftText scan)

/-- Both computations succeed, with results in a relation, or both fail with the same report but for its range. -/
inductive Together {α β : Type} (same : α → β → Prop) : Except StatementError α → Except StatementError β → Prop
  | ok {a : α} {b : β} : same a b → Together same (.ok a) (.ok b)
  | error {e f : StatementError} : e.unplaced = f.unplaced → Together same (.error e) (.error f)

/-! ## Fields -/

structure FieldRequest.Alike (a b : FieldRequest) : Prop where
  name : a.name = b.name
  type : a.type.Alike b.type

structure Field.Alike (a b : Field) : Prop where
  ident : a.ident = b.ident
  type : a.type.Alike b.type

theorem Column.Alike.fieldRequest {a b : Column} (h : a.Alike b) : a.fieldRequest.Alike b.fieldRequest := by
  refine ⟨?_, h.type⟩
  change a.aliasName.getD a.name = b.aliasName.getD b.name
  rw [h.aliasName, h.name]

theorem Bind.Alike.fieldRequest {a b : Bind} (h : a.Alike b) : a.fieldRequest.Alike b.fieldRequest :=
  ⟨h.name, h.type⟩

theorem unplaced_invalidFieldName (name : String) (kind : HoleKind) (range other : Text.ByteRange) :
    (StatementError.invalidFieldName name kind range).unplaced =
      (StatementError.invalidFieldName name kind other).unplaced := by
  cases kind <;> rfl

theorem unplaced_duplicateField (name : String) (kind : HoleKind) (range other : Option Text.ByteRange) :
    (StatementError.duplicateField name kind range).unplaced =
      (StatementError.duplicateField name kind other).unplaced := rfl

theorem ofRequests_together (kind : HoleKind) {requests others : List FieldRequest}
    (h : List.Forall₂ FieldRequest.Alike requests others) (taken : List Ident) :
    Together (List.Forall₂ Field.Alike) (Field.ofRequests kind taken requests) (Field.ofRequests kind taken others) := by
  induction h generalizing taken with
  | nil => exact .ok .nil
  | @cons request other _ _ hfirst _ ih =>
    rw [Field.ofRequests, Field.ofRequests, hfirst.name]
    cases fieldIdent? other.name with
    | none => exact .error (unplaced_invalidFieldName _ _ _ _)
    | some ident =>
      by_cases htaken : ident ∈ taken
      · simp only [if_pos htaken]
        exact .error (unplaced_duplicateField _ _ _ _)
      · simp only [if_neg htaken]
        have hrest := ih (ident :: taken)
        revert hrest
        generalize Field.ofRequests kind (ident :: taken) _ = rest
        generalize Field.ofRequests kind (ident :: taken) _ = back
        rintro (hfields | herror)
        · exact .ok (.cons ⟨rfl, hfirst.type⟩ hfields)
        · exact .error herror

/-! ## Declarations -/

structure Declarations.Alike (a b : Declarations) : Prop where
  target : a.target = b.target
  sql : a.sql = b.sql
  rowFields : List.Forall₂ Field.Alike a.rowFields b.rowFields
  boundFields : List.Forall₂ Field.Alike a.boundFields b.boundFields

theorem emit_together {a b : Model} (h : a.Alike b) (target : Target) :
    Together Declarations.Alike (Declarations.emit a target) (Declarations.emit b target) := by
  have hcolumns := ofRequests_together .column
    (List.rel_map (fun _ _ hcolumn => hcolumn.fieldRequest) h.columns) []
  have hbinds := ofRequests_together .bind (List.rel_map (fun _ _ hbind => hbind.fieldRequest) h.binds) []
  unfold Declarations.emit
  generalize Field.ofRequests .column [] (a.columns.map Column.fieldRequest) = first,
    Field.ofRequests .column [] (b.columns.map Column.fieldRequest) = second at hcolumns
  generalize Field.ofRequests .bind [] (a.binds.map Bind.fieldRequest) = third,
    Field.ofRequests .bind [] (b.binds.map Bind.fieldRequest) = fourth at hbinds
  cases hcolumns with
  | error herror => exact .error herror
  | ok hrow =>
    cases hbinds with
    | error herror => exact .error herror
    | ok hbound => exact .ok ⟨rfl, h.sql, hrow, hbound⟩

/-! ## Tokens -/

theorem TypeRef.Alike.typeExpr {a b : TypeRef} (h : a.Alike b) (library : Path) :
    a.typeExpr library = b.typeExpr library := by
  unfold TypeRef.typeExpr
  rw [h.scalar, h.optional]

theorem map_eq_map_of_forall₂ {α β γ : Type} {same : α → β → Prop} {f : α → γ} {g : β → γ} {as : List α} {bs : List β}
    (h : List.Forall₂ same as bs) (hmap : ∀ a b, same a b → f a = g b) : as.map f = bs.map g := by
  rw [← List.forall₂_eq_eq_eq, List.forall₂_map_left_iff, List.forall₂_map_right_iff]
  exact h.imp hmap

namespace Declarations

/-- What the declarations show of a field: its name and its type as it is emitted. -/
def shown (declarations : Declarations) (field : Field) : Ident × TypeExpr :=
  (field.ident, declarations.fieldType field)

theorem rowType_eq (declarations : Declarations) :
    declarations.rowType = match declarations.rowFields.map declarations.shown with
      | [] => .unit
      | first :: rest => .record (first :: rest) := by
  unfold rowType
  cases declarations.rowFields <;> rfl

theorem columnReads_eq (declarations : Declarations) :
    declarations.columnReads = (declarations.rowFields.map declarations.shown).zipIdx.map
      fun (field, index) => ⟨field.1, field.2, index⟩ := by
  rw [List.zipIdx_map, List.map_map]
  rfl

theorem bindingSteps_eq (declarations : Declarations) :
    declarations.bindingSteps = match declarations.boundFields.map declarations.shown with
      | [] => []
      | first :: rest => .reserve (rest.length + 1) :: (first :: rest).map fun field => .add field.1 := by
  unfold bindingSteps
  cases declarations.boundFields with
  | nil => rfl
  | cons first rest => simp [shown, Function.comp_def]

theorem hostFields_eq (declarations : Declarations) :
    declarations.hostFields = (declarations.boundFields.map declarations.shown).map fun field =>
      ⟨if hasCapital field.1 then allowCapitals else [], declarations.target.visibility, field.1, field.2.tokens⟩ := by
  rw [List.map_map]
  rfl

variable {a b : Declarations}

theorem Alike.map_shown (h : a.Alike b) {fields others : List Field} (hfields : List.Forall₂ Field.Alike fields others) :
    fields.map a.shown = others.map b.shown := by
  apply map_eq_map_of_forall₂ hfields
  intro field other hfield
  rw [shown, shown, fieldType, fieldType, hfield.ident, hfield.type.typeExpr, h.target]

theorem Alike.hostFields (h : a.Alike b) : a.hostFields = b.hostFields := by
  rw [hostFields_eq, hostFields_eq, h.map_shown h.boundFields, h.target]

theorem Alike.rowTypeTokens (h : a.Alike b) : a.rowTypeTokens = b.rowTypeTokens := by
  rw [Declarations.rowTypeTokens, Declarations.rowTypeTokens, rowType_eq, rowType_eq, h.map_shown h.rowFields, h.target]

theorem Alike.conformance (h : a.Alike b) : a.conformance = b.conformance := by
  have hsteps : a.bindingSteps = b.bindingSteps := by
    rw [bindingSteps_eq, bindingSteps_eq, h.map_shown h.boundFields]
  have hreads : a.columnReads = b.columnReads := by
    rw [columnReads_eq, columnReads_eq, h.map_shown h.rowFields]
  simp only [Declarations.conformance, sqlLiteral, bindingsTokens, decodeTokens, h.target, h.sql, hsteps, hreads]

end Declarations

/-! ## Expansions -/

/-- Parameters that are alike clash with the same names. -/
theorem clash?_alike (names : List String) {binds others : List Bind} (h : List.Forall₂ Bind.Alike binds others) :
    Option.Rel Bind.Alike (clash? names binds) (clash? names others) := by
  induction h with
  | nil => exact .none
  | @cons bind other _ _ hfirst _ ih =>
    unfold clash?
    rw [List.find?_cons, List.find?_cons, hfirst.name]
    cases names.contains other.name with
    | true => exact .some hfirst
    | false => exact ih

theorem expandHost_together (host : Host) {template text : String} {a b : Model} (ha : compile template = .ok a)
    (hb : compile text = .ok b) (h : a.Alike b) (options : ExpandOptions) :
    Together (fun x y => x.tokens = y.tokens) (expandHost host template options) (expandHost host text options) := by
  have hemit := emit_together h (.ofHost host.name host.visibility options.library options.row)
  have hclash := clash?_alike host.fieldNames h.binds
  unfold expandHost
  simp only [ha, hb]
  generalize Declarations.emit a _ = first at hemit ⊢
  generalize Declarations.emit b _ = second at hemit ⊢
  generalize clash? host.fieldNames a.binds = third, clash? host.fieldNames b.binds = fourth at hclash
  cases hemit with
  | error herror => exact .error herror
  | ok hdeclarations =>
    cases hclash with
    | some hbind =>
      simp only [hbind.name]
      exact .error (unplaced_duplicateField _ _ _ _)
    | none =>
      apply Together.ok
      simp only [Expansion.tokens, hdeclarations.hostFields, hdeclarations.rowTypeTokens, hdeclarations.conformance]

/-- Both succeed with the same tokens, or both fail and what is reported differs in its range at most. -/
def SameOutcome (first second : Except Diagnostic (List Token)) : Prop :=
  (∃ tokens, first = .ok tokens ∧ second = .ok tokens) ∨
    ∃ diagnostic other : Diagnostic, first = .error diagnostic ∧ second = .error other ∧
      { diagnostic with range := none } = { other with range := none }

theorem expand_sameOutcome (item : Item) (options : ExpandOptions) {template text : String} {a b : Model}
    (ha : compile template = .ok a) (hb : compile text = .ok b) (h : a.Alike b) :
    SameOutcome (expand item template options) (expand item text options) := by
  unfold expand expandItem
  cases acceptableHost item with
  | error error => exact .inr ⟨error.diagnostic, error.diagnostic, rfl, rfl, rfl⟩
  | ok host =>
    have htogether := expandHost_together host ha hb h options
    dsimp only
    generalize expandHost host template options = first, expandHost host text options = second at htogether
    cases htogether with
    | ok htokens => exact .inl ⟨_, rfl, congrArg Except.ok htokens.symm⟩
    | error herror => exact .inr ⟨_, _, rfl, rfl, herror⟩

/-- How holes are written does not reach the output: an item with either of two templates that have the same literal text in
the same places, and holes that stand for what is alike, is expanded to the same tokens, or refused with the same report but
for its range.  Holes stand for what is alike exactly if they are two ways of writing one hole, and then they may be written
with any white space around their arguments and with a last comma or without. -/
theorem expand_ignores_spelling :
    (∀ (item : Item) (options : ExpandOptions) (template text : String) (segments others : List Segment),
      scan template = .ok segments → scan text = .ok others → List.Forall₂ Segment.Alike segments others →
        SameOutcome (expand item template options) (expand item text options)) ∧
    (∀ hole other : Hole, Respelled hole other ↔
      ∃ a b, classify hole = .ok a ∧ classify other = .ok b ∧ a.Alike b) ∧
    ∀ (item : Item) (options : ExpandOptions) (drafts others : List SegmentDraft), AreSafe drafts → AreSafe others →
      List.Forall₂ SegmentDraft.Alike drafts others →
        SameOutcome (expand item (String.ofList (draftText drafts)) options)
          (expand item (String.ofList (draftText others)) options) := by
  have hscanned : ∀ (item : Item) (options : ExpandOptions) (template text : String) (segments others : List Segment),
      scan template = .ok segments → scan text = .ok others → List.Forall₂ Segment.Alike segments others →
        SameOutcome (expand item template options) (expand item text options) := by
    intro item options template text segments others ha hb halike
    obtain ⟨a, b, hfirst, hsecond, hmodels⟩ := exists_alike_models ha hb halike
    exact expand_sameOutcome item options hfirst hsecond hmodels
  refine ⟨hscanned, fun hole other => (exists_alike_iff_respelled hole other).symm, ?_⟩
  intro item options drafts others hdrafts hothers halike
  exact hscanned item options _ _ _ _ (Template.scan_draftText drafts hdrafts) (Template.scan_draftText others hothers)
    (segmentsAt_alike halike 0 0)

/-- A column with an alias and a parameter, written in the usual way. -/
def plainText : String := "\x7bid, i64, as: key\x7d = \x7bbind: id, Option<Int>\x7d"

def plainSegments : List Segment :=
  [.hole ⟨[⟨none, "id", ⟨1, 3⟩⟩, ⟨none, "i64", ⟨5, 8⟩⟩, ⟨some "as", "key", ⟨10, 17⟩⟩], ⟨0, 18⟩⟩, .literal " = ",
    .hole ⟨[⟨some "bind", "id", ⟨22, 30⟩⟩, ⟨none, "Option<Int>", ⟨32, 43⟩⟩], ⟨21, 44⟩⟩]

/-- The same with quotes, a label, comments, other spellings of the types, last commas, and more after the parameter. -/
def ornateText : String :=
  "\x7bcol : \"\\x69d\" , /* wide */Int64,as :\"key\" , \x7d = \x7b bind:\"id\", Option < // null\n i64 , >, more : 1,\x7d"

def ornateSegments : List Segment :=
  [.hole ⟨[⟨some "col", "\"\\x69d\"", ⟨1, 14⟩⟩, ⟨none, "/* wide */Int64", ⟨17, 32⟩⟩, ⟨some "as", "\"key\"", ⟨33, 42⟩⟩],
      ⟨0, 46⟩⟩, .literal " = ",
    .hole ⟨[⟨some "bind", "\"id\"", ⟨51, 60⟩⟩, ⟨none, "Option < // null\n i64 , >", ⟨62, 87⟩⟩, ⟨some "more", "1", ⟨89, 97⟩⟩],
      ⟨49, 99⟩⟩]

def plainModel : Model where
  sql := "id AS key = $1"
  columns := [⟨"id", ⟨"i64", .int64, false⟩, some "key", ⟨0, 18⟩⟩]
  binds := [⟨"id", ⟨"Int", .int64, true⟩, ⟨21, 44⟩⟩]

def ornateModel : Model where
  sql := "id AS key = $1"
  columns := [⟨"id", ⟨"Int64", .int64, false⟩, some "key", ⟨0, 46⟩⟩]
  binds := [⟨"id", ⟨"i64", .int64, true⟩, ⟨49, 99⟩⟩]

theorem plainSegments_alike : List.Forall₂ Segment.Alike plainSegments ornateSegments := by
  refine .cons (.hole (a := .column ⟨"id", ⟨"i64", .int64, false⟩, some "key", ⟨0, 18⟩⟩)
    (b := .column ⟨"id", ⟨"Int64", .int64, false⟩, some "key", ⟨0, 46⟩⟩) ?_ ?_ (.column ⟨rfl, rfl, rfl, rfl⟩))
    (.cons (.literal " = ") (.cons (.hole (a := .bind ⟨"id", ⟨"Int", .int64, true⟩, ⟨21, 44⟩⟩)
      (b := .bind ⟨"id", ⟨"i64", .int64, true⟩, ⟨49, 99⟩⟩) ?_ ?_ (.bind ⟨rfl, rfl, rfl⟩)) .nil))
  · decide +kernel
  · decide +kernel
  · decide +kernel
  · decide +kernel

def plainDraft : List SegmentDraft :=
  [.literal "SELECT ", .hole (quotedBind "id" "i64")]

/-- The draft with another spelling of the type, other white space and a last comma. -/
def ornateDraft : List SegmentDraft :=
  [.literal "SELECT ", .hole ⟨[⟨some "bind", Template.quoted "id", spaced, tight, spaced, tight⟩,
    ⟨none, "Int", tight, spaced, tight, tight⟩], some spaced⟩]

theorem areSafe_literal_hole (text : String) (draft : HoleDraft) (htext : text ≠ "") (hdraft : draft.IsSafe) :
    AreSafe [.literal text, .hole draft] where
  nonempty other hother := by
    simp only [List.mem_cons, List.not_mem_nil, or_false, SegmentDraft.literal.injEq, reduceCtorEq] at hother
    rwa [hother]
  apart := .cons_cons (by simp [SegmentDraft.isLiteral]) (.singleton _)
  holes other hother := by
    simp only [List.mem_cons, List.not_mem_nil, or_false, SegmentDraft.hole.injEq, reduceCtorEq, false_or] at hother
    rwa [hother]

theorem ornateDraft_areSafe : AreSafe ornateDraft := by
  refine areSafe_literal_hole _ _ (by decide) ⟨by simp, ?_⟩
  intro index argument hargument
  match index, hargument with
  | 0, hargument =>
    obtain rfl := Option.some.inj hargument
    exact ArgumentDraft.isSafe_quoted _ _ "id" rfl (by simp; decide)
  | 1, hargument =>
    obtain rfl := Option.some.inj hargument
    exact ArgumentDraft.isSafe_name _ _ rfl (by decide)
  | _ + 2, hargument => exact absurd hargument (by simp)

theorem expand_ignores_spelling_ornate :
    (∃ tokens, expand (.struct constrained) plainText ⟨usualLibrary, none⟩ = .ok tokens ∧
      expand (.struct constrained) ornateText ⟨usualLibrary, none⟩ = .ok tokens) ∧
    (∃ diagnostic other : Diagnostic, expand (.struct identified) plainText ⟨usualLibrary, none⟩ = .error diagnostic ∧
      expand (.struct identified) ornateText ⟨usualLibrary, none⟩ = .error other ∧
      { diagnostic with range := none } = { other with range := none } ∧ diagnostic.range ≠ other.range) ∧
    SameOutcome (expand (.struct identified) (String.ofList (draftText plainDraft)) ⟨usualLibrary, none⟩)
      (expand (.struct identified) (String.ofList (draftText ornateDraft)) ⟨usualLibrary, none⟩) := by
  obtain ⟨hscanned, hrespelled, hwritten⟩ := expand_ignores_spelling
  have hplain : scan plainText = .ok plainSegments := (Template.scan_ofList _).trans (by decide +kernel)
  have hornate : scan ornateText = .ok ornateSegments := (Template.scan_ofList _).trans (by decide +kernel)
  have hcompile : compile plainText = .ok plainModel := (compile_of_scan hplain).trans (by decide +kernel)
  have hother : compile ornateText = .ok ornateModel := (compile_of_scan hornate).trans (by decide +kernel)
  refine ⟨?_, ?_, ?_⟩
  · rcases hscanned (.struct constrained) ⟨usualLibrary, none⟩ _ _ _ _ hplain hornate plainSegments_alike with hsame | hfails
    · exact hsame
    · obtain ⟨diagnostic, _, hfirst, -⟩ := hfails
      obtain ⟨tokens, htokens⟩ : ∃ tokens, expand (.struct constrained) plainText ⟨usualLibrary, none⟩ = .ok tokens :=
        ⟨_, (expand_of_compile rfl hcompile _).trans rfl⟩
      rw [hfirst] at htokens
      exact absurd htokens (by simp)
  · have hfirst : expand (.struct identified) plainText ⟨usualLibrary, none⟩ =
        .error (StatementError.duplicateField "id" .bind (some ⟨21, 44⟩)).diagnostic :=
      (expand_of_compile rfl hcompile _).trans rfl
    have hsecond : expand (.struct identified) ornateText ⟨usualLibrary, none⟩ =
        .error (StatementError.duplicateField "id" .bind (some ⟨49, 99⟩)).diagnostic :=
      (expand_of_compile rfl hother _).trans rfl
    rcases hscanned (.struct identified) ⟨usualLibrary, none⟩ _ _ _ _ hplain hornate plainSegments_alike with hsame | hfails
    · obtain ⟨tokens, htokens, -⟩ := hsame
      rw [hfirst] at htokens
      exact absurd htokens (by simp)
    · obtain ⟨diagnostic, other, hdiagnostic, hother, hsame⟩ := hfails
      refine ⟨diagnostic, other, hdiagnostic, hother, hsame, ?_⟩
      rw [hfirst] at hdiagnostic
      rw [hsecond] at hother
      rw [← Except.error.inj hdiagnostic, ← Except.error.inj hother]
      decide
  · refine hwritten _ _ plainDraft ornateDraft ?_ ornateDraft_areSafe (.cons (.literal _) (.cons (.hole ?_) .nil))
    · exact areSafe_literal_hole _ _ (by decide) (quotedBind_isSafe "id" "i64" (by decide))
    · exact (hrespelled _ _).2 ⟨.bind ⟨"id", ⟨"i64", .int64, false⟩, ⟨0, 17⟩⟩, .bind ⟨"id", ⟨"Int", .int64, false⟩, ⟨0, 20⟩⟩,
        by decide +kernel, by decide +kernel, .bind ⟨rfl, rfl, rfl⟩⟩

end TypedStatement
