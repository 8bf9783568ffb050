import TypedStatement.Proofs.Declarations.Fields
import TypedStatement.Proofs.Source.Names
import Mathlib.Data.List.Nodup

/-!
# What is declared

A statement is declared exactly if its columns and its parameters have legal names, the columns different ones and the
parameters different ones (`CanDeclare`).  Each then has a field with its name and its type, and the identifier of the field
is read back from how it is written (`IsFieldOf`).  Three tests decide this in turn, a pattern, a list of reserved words and
the parser of identifiers; `fieldIdent` is where they meet.
-/

namespace TypedStatement
set_option autoImplicit false

open Source (Ident neverRaw tokens?)
open Text (IsPlainName)

/-! ## Legal names -/

/-- The name matches `[A-Za-z_][A-Za-z0-9_]*` and is not reserved. -/
structure IsLegalName (name : String) : Prop where
  pattern : IsPlainName name.toList
  unreserved : name ∉ ["self", "Self", "super", "crate", "_"]

theorem isFieldName_iff (name : String) : isFieldName name = true ↔ IsLegalName name := by
  rw [isFieldName, Bool.and_eq_true, Text.isAsciiName_iff, Bool.not_eq_true', ← Bool.not_eq_true, List.contains_iff_mem]
  exact ⟨fun h => ⟨h.1, h.2⟩, fun h => ⟨h.pattern, h.unreserved⟩⟩

/-- What the constructors of identifiers ask for, which refuse everything else: a word of identifier characters, and for a raw
identifier one that may be raw. -/
structure IsConstructible (ident : Ident) : Prop where
  word : ∃ first rest, ident.name.toList = first :: rest ∧ Text.isIdentifierStart first = true ∧
    ∀ c ∈ rest, Text.isIdentifierPart c = true
  raw : ident.raw = true → neverRaw ident.name.toList = false

section
variable {name : String} (h : IsLegalName name)
include h

theorem IsLegalName.isAsciiName : Text.isAsciiName name.toList = true :=
  (Text.isAsciiName_iff _).2 h.pattern

/-- What is never raw is reserved. -/
theorem IsLegalName.neverRaw : neverRaw name.toList = false := by
  have hreserved : ∀ word ∈ ["_", "super", "self", "Self", "crate"], word ∈ ["self", "Self", "super", "crate", "_"] := by
    decide
  rw [Source.neverRaw, String.ofList_toList, ← Bool.not_eq_true, List.contains_iff_mem]
  exact fun hmem => h.unreserved (hreserved name hmem)

theorem IsLegalName.isConstructible : IsConstructible (fieldIdent name) := by
  obtain ⟨first, rest, hcons, hname⟩ := Source.exists_cons_of_isAsciiName h.isAsciiName
  refine ⟨⟨first, rest, hcons, ?_, Source.isIdentifierPart_of_isAsciiName hname⟩, fun _ => h.neverRaw⟩
  exact Source.isIdentifierStart_of_isLetterOrLine (Source.isLetterOrLine_of_isAsciiName hname)

/-- A legal name is read as a plain identifier unless it is a keyword. -/
theorem IsLegalName.parse_eq_ok_iff (ident : Ident) :
    Ident.parse name = .ok ident ↔ (Ident.plain name).isUsable = true ∧ ident = .plain name := by
  rw [Source.parse_ident_eq_ok_iff, Source.tokens?_name h.isAsciiName, Option.some.injEq, List.singleton_inj,
    Source.Token.ident.injEq]
  constructor
  · rintro ⟨rfl, husable⟩
    exact ⟨husable, rfl⟩
  · rintro ⟨husable, rfl⟩
    exact ⟨rfl, husable⟩

/-- The field is raw exactly if its name is refused as a plain identifier. -/
theorem IsLegalName.raw_iff : (fieldIdent name).raw = true ↔ ∀ ident, Ident.parse name ≠ .ok ident := by
  change (!(Ident.plain name).isUsable) = true ↔ _
  rw [Bool.not_eq_true']
  constructor
  · intro hkeyword ident hident
    rw [((h.parse_eq_ok_iff ident).1 hident).1] at hkeyword
    exact absurd hkeyword (by simp)
  · intro hrefused
    rw [← Bool.not_eq_true]
    exact fun husable => hrefused _ ((h.parse_eq_ok_iff _).2 ⟨husable, rfl⟩)

/-- The identifier of a field is read back. -/
theorem IsLegalName.parse_text : Ident.parse (fieldIdent name).text = .ok (fieldIdent name) := by
  cases husable : (Ident.plain name).isUsable with
  | true =>
    have hplain : fieldIdent name = .plain name := by rw [fieldIdent, husable]; rfl
    rw [hplain]
    exact Source.parse_ident_name h.isAsciiName husable
  | false =>
    have hraw : fieldIdent name = ⟨name, true⟩ := by rw [fieldIdent, husable]; rfl
    rw [hraw]
    exact Source.parse_ident_raw name h.isAsciiName h.neverRaw

end

/-! ## Fields -/

/-- The field has the name and the type, is raw exactly if the name is refused as a plain identifier, and is read back from
how it is written. -/
structure IsFieldOf (name : String) (type : TypeRef) (field : Field) : Prop where
  named : field.ident.name = name
  typed : field.type = type
  raw : field.ident.raw = true ↔ ∀ ident, Ident.parse name ≠ .ok ident
  reread : Ident.parse field.ident.text = .ok field.ident

theorem IsLegalName.isFieldOf {name : String} (h : IsLegalName name) (type : TypeRef) :
    IsFieldOf name type ⟨fieldIdent name, type⟩ :=
  ⟨rfl, rfl, h.raw_iff, h.parse_text⟩

/-- The fields are all different, written with `r#` or without. -/
structure AreDistinct (fields : List Field) : Prop where
  written : (fields.map (·.ident.text)).Nodup
  named : (fields.map (·.ident.name)).Nodup

/-- Written identifiers that read back to themselves are different if the names are. -/
theorem areDistinct_of_names {fields : List Field} (hreread : ∀ field ∈ fields, Ident.parse field.ident.text = .ok field.ident)
    (hnames : (fields.map (·.ident.name)).Nodup) : AreDistinct fields := by
  refine ⟨?_, hnames⟩
  rw [List.nodup_map_iff_inj_on (List.Nodup.of_map _ hnames)]
  intro field hfield other hother hsame
  -- identifiers that are written in the same way are read back as one
  have hident : field.ident = other.ident := by
    have hparse := hreread field hfield
    rw [hsame, hreread other hother] at hparse
    exact (Except.ok.inj hparse).symm
  exact List.inj_on_of_nodup_map hnames hfield hother (congrArg Ident.name hident)

/-! ## Statements -/

/-- What a statement needs in order to be declared.  A column and a parameter may have the same name. -/
structure CanDeclare (model : Model) : Prop where
  columns : ∀ column ∈ model.columns, IsLegalName column.fieldName
  binds : ∀ bind ∈ model.binds, IsLegalName bind.name
  columnsDiffer : (model.columns.map Column.fieldName).Nodup
  bindsDiffer : (model.binds.map Bind.name).Nodup

/-- What is declared for a statement. -/
structure Declares (model : Model) (declarations : Declarations) : Prop where
  sql : declarations.sql = model.sql
  row : List.Forall₂ (fun column field => IsFieldOf column.fieldName column.type field) model.columns
    declarations.rowFields
  bound : List.Forall₂ (fun bind field => IsFieldOf bind.name bind.type field) model.binds declarations.boundFields
  rowDistinct : AreDistinct declarations.rowFields
  boundDistinct : AreDistinct declarations.boundFields

/-- Requests get their fields exactly if their names are legal and all different. -/
theorem grantable_iff_legal (requests : List FieldRequest) :
    Grantable [] requests ↔
      (∀ request ∈ requests, IsLegalName request.name) ∧ (requests.map FieldRequest.name).Nodup := by
  have hnames : requests.map FieldRequest.ident = (requests.map FieldRequest.name).map fieldIdent := by
    rw [List.map_map]
    rfl
  have hinjective : Function.Injective fieldIdent := fun a b => (fieldIdent_inj a b).1
  rw [grantable_iff, hnames]
  simp only [isFieldName_iff]
  constructor
  · rintro ⟨hlegal, hfree⟩
    exact ⟨hlegal, List.Nodup.of_map _ hfree.distinct⟩
  · rintro ⟨hlegal, hdistinct⟩
    exact ⟨hlegal, hdistinct.map hinjective, by simp⟩

theorem canDeclare_iff (model : Model) :
    CanDeclare model ↔
      Grantable [] (model.columns.map Column.fieldRequest) ∧ Grantable [] (model.binds.map Bind.fieldRequest) := by
  rw [grantable_iff_legal, grantable_iff_legal, List.forall_mem_map, List.forall_mem_map, List.map_map, List.map_map]
  constructor
  · rintro ⟨hcolumns, hbinds, hcolumnsDiffer, hbindsDiffer⟩
    exact ⟨⟨hcolumns, hcolumnsDiffer⟩, hbinds, hbindsDiffer⟩
  · rintro ⟨⟨hcolumns, hcolumnsDiffer⟩, hbinds, hbindsDiffer⟩
    exact ⟨hcolumns, hbinds, hcolumnsDiffer, hbindsDiffer⟩

section
variable {α : Type} (name : α → String) (type : α → TypeRef) {items : List α}
  (hlegal : ∀ item ∈ items, IsLegalName (name item))
include hlegal

theorem forall₂_isFieldOf : List.Forall₂ (fun item field => IsFieldOf (name item) (type item) field) items
    (items.map fun item => ⟨fieldIdent (name item), type item⟩) := by
  rw [List.forall₂_map_right_iff, List.forall₂_same]
  exact fun item hitem => (hlegal item hitem).isFieldOf (type item)

theorem areDistinct_fields (hdistinct : (items.map name).Nodup) :
    AreDistinct (items.map fun item => ⟨fieldIdent (name item), type item⟩) := by
  apply areDistinct_of_names
  · rw [List.forall_mem_map]
    exact fun item hitem => (hlegal item hitem).parse_text
  · rw [List.map_map]
    exact hdistinct

end

theorem CanDeclare.declares {model : Model} (h : CanDeclare model) (target : Target) :
    Declares model (declarationsOf target model) where
  sql := rfl
  row := forall₂_isFieldOf Column.fieldName Column.type h.columns
  bound := forall₂_isFieldOf Bind.name Bind.type h.binds
  rowDistinct := areDistinct_fields Column.fieldName Column.type h.columns h.columnsDiffer
  boundDistinct := areDistinct_fields Bind.name Bind.type h.binds h.bindsDiffer

/-- A statement is declared exactly if it can be, and what is declared is what it asks for.  No constructor of identifiers
is given what it refuses, whatever name a field is asked for with. -/
theorem emit_declares (model : Model) (target : Target) :
    ((∃ declarations, Declarations.emit model target = .ok declarations) ↔ CanDeclare model) ∧
    (∀ declarations, Declarations.emit model target = .ok declarations →
      declarations.target = target ∧ Declares model declarations) ∧
    ∀ name ident, fieldIdent? name = some ident → IsConstructible ident := by
  refine ⟨?_, ?_, ?_⟩
  · simp only [emit_eq_ok_iff, ← and_assoc, exists_eq_right, canDeclare_iff]
  · intro declarations h
    obtain ⟨hcolumns, hbinds, rfl⟩ := (emit_eq_ok_iff _ _ _).1 h
    exact ⟨rfl, ((canDeclare_iff model).2 ⟨hcolumns, hbinds⟩).declares target⟩
  · intro name ident h
    by_cases hname : isFieldName name = true
    · rw [fieldIdent?_of_isFieldName name hname] at h
      rw [← Option.some.inj h]
      exact ((isFieldName_iff name).1 hname).isConstructible
    · rw [fieldIdent?_eq_none name hname] at h
      exact absurd h (by simp)

/-- A column with a keyword as its alias, and a parameter of the same name. -/
def keywordModel : Model where
  sql := "SELECT kind AS type, id FROM t WHERE kind = $1"
  columns := [⟨"kind", .ofScalar .text false, some "type", ⟨7, 31⟩⟩, ⟨"id", .ofScalar .int64 false, none, ⟨33, 42⟩⟩]
  binds := [⟨"type", .ofScalar .text false, ⟨63, 83⟩⟩]

theorem emit_declares_keyword :
    let target : Target := .ofHost (.plain "ByKind") .pub (.ofNames true ["pgstmt"]) none
    (∃ declarations, Declarations.emit keywordModel target = .ok declarations ∧ declarations.target = target ∧
      Declares keywordModel declarations) ∧
    IsConstructible ⟨"type", true⟩ ∧
    ¬ ∃ declarations, Declarations.emit { keywordModel with columns := keywordModel.columns ++ keywordModel.columns }
      target = .ok declarations := by
  intro target
  have hcan : CanDeclare keywordModel :=
    ⟨by simp only [← isFieldName_iff]; decide, by simp only [← isFieldName_iff]; decide, by decide, by decide⟩
  obtain ⟨hiff, hdeclares, hconstructible⟩ := emit_declares keywordModel target
  obtain ⟨declarations, hemit⟩ := hiff.2 hcan
  refine ⟨⟨declarations, hemit, hdeclares declarations hemit⟩, hconstructible "type" _ (by decide), ?_⟩
  intro hrepeated
  exact absurd ((emit_declares _ target).1.1 hrepeated).columnsDiffer (by decide)

end TypedStatement
