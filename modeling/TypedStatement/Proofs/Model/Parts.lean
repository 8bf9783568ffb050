import TypedStatement.Model
import TypedStatement.Proofs.FirstFault
import TypedStatement.Proofs.Result
import TypedStatement.Proofs.Template.Segments
import Mathlib.Data.List.Forall2

/-!
# The parts of a statement

The parts of a statement are the segments of its template with every hole classified.  What the compiler makes of a
template can be said of its parts at once, without following the compiler from left to right: the columns and the
parameters are those among the parts, and the query is their texts joined, where a parameter is written with one more
than the number of parameters before it.

The main statement is `build_eq_ok_iff`: a model is built from segments exactly if each of them stands for a part, and
it is then the model of these parts.
-/

namespace TypedStatement
set_option autoImplicit false

open Template (Segment)

/-- A segment of a template with its hole classified. -/
inductive Part where
  | literal (text : String)
  | column (column : Column)
  | bind (bind : Bind)
  deriving DecidableEq

namespace Part

def ofClassified : Classified → Part
  | .column c => .column c
  | .bind b => .bind b

/-- What a segment stands for. -/
inductive Of : Segment → Part → Prop
  | literal (text : String) : Of (.literal text) (.literal text)
  | hole (hole : Template.Hole) (classified : Classified) :
      classify hole = .ok classified → Of (.hole hole) (ofClassified classified)

def column? : Part → Option Column
  | .column c => some c
  | _ => none

def bind? : Part → Option Bind
  | .bind b => some b
  | _ => none

/-- The text of a part in the query; `number` is the number that a parameter gets here. -/
def text (number : Nat) : Part → String
  | .literal text => text
  | .column c => c.name ++ (match c.aliasName with
    | some name => " AS " ++ name
    | none => "")
  | .bind _ => "$" ++ toString number

end Part

def partColumns (parts : List Part) : List Column :=
  parts.filterMap Part.column?

def partBinds (parts : List Part) : List Bind :=
  parts.filterMap Part.bind?

/-- The texts of the parts when `before` parameters stand in front of them. -/
def textsAfter (before : Nat) (parts : List Part) : List String :=
  parts.mapIdx fun i part => part.text (before + (partBinds (parts.take i)).length + 1)

def partTexts (parts : List Part) : List String :=
  textsAfter 0 parts

/-! ## Holes that stand for nothing -/

/-- The segment is a hole that stands for nothing, for this error. -/
def IsRefused (segment : Segment) (error : StatementError) : Prop :=
  ∃ hole, segment = .hole hole ∧ classify hole = .error error

theorem not_isRefused_literal (text : String) (error : StatementError) : ¬ IsRefused (.literal text) error := by
  rintro ⟨hole, hsame, -⟩
  exact absurd hsame (by simp)

theorem isRefused_hole_iff (hole : Template.Hole) (error : StatementError) :
    IsRefused (.hole hole) error ↔ classify hole = .error error := by
  constructor
  · rintro ⟨other, hsame, hfails⟩
    rwa [Template.Segment.hole.inj hsame]
  · intro hfails
    exact ⟨hole, rfl, hfails⟩

/-! ## Numbering -/

theorem partBinds_append (a b : List Part) : partBinds (a ++ b) = partBinds a ++ partBinds b :=
  List.filterMap_append

theorem partColumns_append (a b : List Part) : partColumns (a ++ b) = partColumns a ++ partColumns b :=
  List.filterMap_append

theorem mem_partColumns_iff (parts : List Part) (column : Column) :
    column ∈ partColumns parts ↔ .column column ∈ parts := by
  unfold partColumns
  rw [List.mem_filterMap]
  constructor
  · rintro ⟨part, hpart, hcolumn⟩
    cases part with
    | column found => rwa [← Option.some.inj hcolumn]
    | literal text => exact absurd hcolumn (by simp [Part.column?])
    | bind bind => exact absurd hcolumn (by simp [Part.column?])
  · intro hmem
    exact ⟨.column column, hmem, rfl⟩

theorem mem_partBinds_iff (parts : List Part) (bind : Bind) : bind ∈ partBinds parts ↔ .bind bind ∈ parts := by
  unfold partBinds
  rw [List.mem_filterMap]
  constructor
  · rintro ⟨part, hpart, hbind⟩
    cases part with
    | bind found => rwa [← Option.some.inj hbind]
    | literal text => exact absurd hbind (by simp [Part.bind?])
    | column column => exact absurd hbind (by simp [Part.bind?])
  · intro hmem
    exact ⟨.bind bind, hmem, rfl⟩

theorem partBinds_cons (part : Part) (parts : List Part) :
    partBinds (part :: parts) = part.bind?.toList ++ partBinds parts := by
  cases part <;> rfl

theorem textsAfter_nil (before : Nat) : textsAfter before [] = [] := rfl

theorem textsAfter_cons (before : Nat) (part : Part) (parts : List Part) :
    textsAfter before (part :: parts) =
      part.text (before + 1) :: textsAfter (before + (partBinds [part]).length) parts := by
  unfold textsAfter
  rw [List.mapIdx_cons]
  congr 1
  apply List.mapIdx_eq_mapIdx_iff.2
  intro i hi
  have hsplit : partBinds ((part :: parts).take (i + 1)) = partBinds [part] ++ partBinds (parts.take i) := by
    rw [List.take_succ_cons, ← partBinds_append, List.singleton_append]
  rw [hsplit, List.length_append, ← Nat.add_assoc before]

namespace Model

def addParts (model : Model) (parts : List Part) : Model where
  sql := model.sql ++ String.join (textsAfter model.binds.length parts)
  columns := model.columns ++ partColumns parts
  binds := model.binds ++ partBinds parts

def ofParts (parts : List Part) : Model :=
  empty.addParts parts

@[simp] theorem addParts_nil (model : Model) : model.addParts [] = model := by
  simp [addParts, textsAfter_nil, partColumns, partBinds]

theorem addParts_cons (model : Model) (part : Part) (parts : List Part) :
    model.addParts (part :: parts) = (model.addParts [part]).addParts parts := by
  have hcolumns : partColumns (part :: parts) = partColumns [part] ++ partColumns parts :=
    partColumns_append [part] parts
  have hbinds : partBinds (part :: parts) = partBinds [part] ++ partBinds parts :=
    partBinds_append [part] parts
  simp only [addParts, hcolumns, hbinds, textsAfter_cons, textsAfter_nil, String.join_cons, String.join_nil,
    String.append_empty, String.append_assoc, List.append_assoc, List.length_append]

theorem addParts_literal (model : Model) (text : String) :
    model.addParts [.literal text] = model.pushLiteral text := by
  simp [addParts, pushLiteral, textsAfter_cons, textsAfter_nil, Part.text, partColumns, partBinds, Part.column?,
    Part.bind?]

theorem addParts_classified (model : Model) (classified : Classified) :
    model.addParts [.ofClassified classified] = model.push classified := by
  cases classified with
  | column c =>
    cases halias : c.aliasName <;>
      simp [addParts, push, pushColumn, Part.ofClassified, textsAfter_cons, textsAfter_nil, Part.text, partColumns,
        partBinds, Part.column?, Part.bind?, String.append_assoc, halias]
  | bind b =>
    simp [addParts, push, pushBind, Part.ofClassified, textsAfter_cons, textsAfter_nil, Part.text, partColumns,
      partBinds, Part.column?, Part.bind?, String.append_assoc]

/-! ## Building from segments -/

section
variable (model : Model) (rest : List Segment)

@[simp] theorem extend_nil : model.extend [] = .ok model := rfl

@[simp] theorem extend_literal (text : String) :
    model.extend (.literal text :: rest) = (model.pushLiteral text).extend rest := rfl

variable {hole : Template.Hole}

theorem extend_hole {classified : Classified} (h : classify hole = .ok classified) :
    model.extend (.hole hole :: rest) = (model.push classified).extend rest := by
  rw [extend, h]

theorem extend_hole_error {error : StatementError} (h : classify hole = .error error) :
    model.extend (.hole hole :: rest) = .error error := by
  rw [extend, h]

end

theorem extend_parts (segments : List Segment) (parts : List Part) (model : Model)
    (h : List.Forall₂ Part.Of segments parts) : model.extend segments = .ok (model.addParts parts) := by
  induction h generalizing model with
  | nil => rw [addParts_nil, extend_nil]
  | cons hpart _ ih =>
    cases hpart with
    | literal text => rw [addParts_cons, addParts_literal, extend_literal, ih]
    | hole hole classified hclassify =>
      rw [addParts_cons, addParts_classified, extend_hole _ _ hclassify]
      exact ih (model.push classified)

theorem exists_parts_of_extend (segments : List Segment) (model result : Model)
    (h : model.extend segments = .ok result) : ∃ parts, List.Forall₂ Part.Of segments parts := by
  induction segments generalizing model with
  | nil => exact ⟨[], .nil⟩
  | cons segment segments ih =>
    cases segment with
    | literal text =>
      obtain ⟨parts, hparts⟩ := ih (model.pushLiteral text) h
      exact ⟨.literal text :: parts, .cons (.literal text) hparts⟩
    | hole hole =>
      cases hclassify : classify hole with
      | error error =>
        rw [extend_hole_error _ _ hclassify] at h
        exact absurd h (by simp)
      | ok classified =>
        rw [extend_hole _ _ hclassify] at h
        obtain ⟨parts, hparts⟩ := ih (model.push classified) h
        exact ⟨.ofClassified classified :: parts, .cons (.hole hole classified hclassify) hparts⟩

/-- Segments are refused for their first hole that stands for nothing, whatever the model is. -/
theorem extend_eq_error_iff (segments : List Segment) (model : Model) (error : StatementError) :
    model.extend segments = .error error ↔ FirstFault (fun _ => IsRefused) segments error := by
  induction segments generalizing model with
  | nil => simp [firstFault_nil]
  | cons segment segments ih =>
    cases segment with
    | literal text =>
      rw [extend_literal, ih, firstFault_cons_of_not _ _ _ _ (not_isRefused_literal text)]
    | hole hole =>
      cases hclassify : classify hole with
      | error found =>
        rw [extend_hole_error _ _ hclassify, firstFault_cons_of_error (isRefused_hole_iff hole) hclassify]
        exact error_eq_error_iff found error
      | ok classified =>
        rw [extend_hole _ _ hclassify, firstFault_cons_of_ok (isRefused_hole_iff hole) hclassify]
        exact ih (model.push classified)

/-- A model is built exactly if every segment stands for a part, and it is the model of these parts. -/
theorem build_eq_ok_iff (segments : List Segment) (model : Model) :
    build segments = .ok model ↔ ∃ parts, List.Forall₂ Part.Of segments parts ∧ model = ofParts parts := by
  constructor
  · intro h
    obtain ⟨parts, hparts⟩ := exists_parts_of_extend segments empty model h
    refine ⟨parts, hparts, ?_⟩
    have hbuild := extend_parts segments parts empty hparts
    rw [build, hbuild] at h
    exact (Except.ok.inj h).symm
  · rintro ⟨parts, hparts, rfl⟩
    exact extend_parts segments parts empty hparts

@[simp] theorem ofParts_sql (parts : List Part) : (ofParts parts).sql = String.join (partTexts parts) := by
  simp [ofParts, addParts, empty, partTexts]

@[simp] theorem ofParts_columns (parts : List Part) : (ofParts parts).columns = partColumns parts := rfl

@[simp] theorem ofParts_binds (parts : List Part) : (ofParts parts).binds = partBinds parts := rfl

end Model

/-- A template is compiled exactly if it can be read and each of its segments stands for a part. -/
theorem compile_eq_ok_iff (template : String) (model : Model) :
    compile template = .ok model ↔ ∃ segments parts, Template.scan template = .ok segments ∧
      List.Forall₂ Part.Of segments parts ∧ model = Model.ofParts parts := by
  unfold compile
  cases Template.scan template with
  | error malformed => simp
  | ok segments => simp [Model.build_eq_ok_iff]

theorem compile_of_scan {template : String} {segments : List Segment} (h : Template.scan template = .ok segments) :
    compile template = Model.build segments := by
  rw [compile, h]

theorem compile_ofList (text : List Char) :
    compile (String.ofList text) =
      (((Template.scanItems 0 text).map Template.segmentsOf).mapError .malformedTemplate).bind Model.build := by
  rw [compile, Template.scan_ofList]
  cases Template.scanItems 0 text <;> rfl

end TypedStatement
