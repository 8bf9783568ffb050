import TypedStatement.Proofs.Model.Parts
import TypedStatement.Proofs.Template.Concatenation

/-!
# Statements side by side

What a hole stands for does not depend on where it stands (`classify_shift`), and a model goes on from the parameters
it has.  So a template after another one is compiled as it is alone, with its ranges later and its parameters numbered
on, and an error of it is the same error at a later place.

The main statement, on reading and on compiling, is `scan_compile_append`.
-/

namespace TypedStatement
set_option autoImplicit false

open Template (Argument Hole Segment joinSegments scan)
open Text (ByteRange utf8Length)

/-! ## Later by some bytes -/

def Column.shift (bytes : Nat) (column : Column) : Column :=
  { column with range := column.range.shift bytes }

def Bind.shift (bytes : Nat) (bind : Bind) : Bind :=
  { bind with range := bind.range.shift bytes }

def Classified.shift (bytes : Nat) : Classified → Classified
  | .column c => .column (c.shift bytes)
  | .bind b => .bind (b.shift bytes)

def Part.shift (bytes : Nat) : Part → Part
  | .literal text => .literal text
  | .column c => .column (c.shift bytes)
  | .bind b => .bind (b.shift bytes)

/-- The same error at a later place of the template. -/
def StatementError.shift (bytes : Nat) : StatementError → StatementError
  | .unprocessableHole name kind range => .unprocessableHole name kind (range.shift bytes)
  | .malformedTemplate malformed => .malformedTemplate (malformed.shift bytes)
  | .invalidFieldName name kind range => .invalidFieldName name kind (range.shift bytes)
  | .duplicateField name kind range => .duplicateField name kind (range.map (·.shift bytes))
  | .invalidDeclaration introducer => .invalidDeclaration introducer
  | .unsupportedDeclaration reason => .unsupportedDeclaration reason

/-! ## Classification -/

section
variable (bytes : Nat)

theorem classifyAlias_shift (column : String) (argument : Argument) :
    classifyAlias column (argument.shift bytes) =
      mapBoth (StatementError.shift bytes) id (classifyAlias column argument) := by
  have hlabel : (argument.shift bytes).hasLabel "as" = argument.hasLabel "as" := rfl
  have hvalue : (argument.shift bytes).value = argument.value := rfl
  unfold classifyAlias
  rw [hlabel, hvalue]
  split
  · split
    · split <;> rfl
    · rfl
  · rfl

theorem classifyColumn_shift (range : ByteRange) (name : String) (type : TypeRef) (later : List Argument) :
    classifyColumn (range.shift bytes) name type (later.map (Argument.shift bytes)) =
      mapBoth (StatementError.shift bytes) (Column.shift bytes) (classifyColumn range name type later) := by
  cases later with
  | nil => rfl
  | cons third later =>
    rw [List.map_cons, classifyColumn, classifyColumn, classifyAlias_shift]
    cases classifyAlias name third with
    | error error => rfl
    | ok aliasName => cases later <;> rfl

theorem classify_shift (hole : Hole) :
    classify (hole.shift bytes) =
      mapBoth (StatementError.shift bytes) (Classified.shift bytes) (classify hole) := by
  obtain ⟨arguments, range⟩ := hole
  rcases arguments with _ | ⟨first, _ | ⟨second, later⟩⟩
  · rfl
  · rfl
  · have hlabel : (first.shift bytes).hasLabel "bind" = first.hasLabel "bind" := rfl
    have hfirst : (first.shift bytes).value = first.value := rfl
    have hsecond : (second.shift bytes).value = second.value := rfl
    simp only [classify, Hole.shift, List.map_cons, hlabel, hfirst, hsecond, classifyColumn_shift]
    cases TypeRef.parse second.value with
    | none => rfl
    | some type =>
      cases literalText? first.value with
      | none => rfl
      | some name =>
        cases first.hasLabel "bind" with
        | true => rfl
        | false =>
          simp only [Bool.false_eq_true, if_false]
          cases classifyColumn range name type later <;> rfl

theorem isRefused_shift_iff (segment : Segment) (error : StatementError) :
    IsRefused (segment.shift bytes) error ↔ ∃ found, IsRefused segment found ∧ found.shift bytes = error := by
  cases segment with
  | literal text => simp [Segment.shift, not_isRefused_literal]
  | hole hole =>
    rw [Segment.shift, isRefused_hole_iff, classify_shift]
    cases hclassify : classify hole with
    | error found => simp [isRefused_hole_iff, hclassify]
    | ok classified => simp [isRefused_hole_iff, hclassify]

theorem firstRefused_shift (segments : List Segment) (error : StatementError)
    (h : FirstFault (fun _ => IsRefused) segments error) :
    FirstFault (fun _ => IsRefused) (segments.map (Segment.shift bytes)) (error.shift bytes) := by
  apply h.map (Segment.shift bytes) (StatementError.shift bytes)
  · intro _ segment found hfound
    exact (isRefused_shift_iff bytes segment _).2 ⟨found, hfound, rfl⟩
  · intro _ segment found hfound
    obtain ⟨other, hother, -⟩ := (isRefused_shift_iff bytes segment found).1 hfound
    exact ⟨other, hother⟩

theorem Part.Of.shift {segment : Segment} {part : Part} (h : Part.Of segment part) :
    Part.Of (segment.shift bytes) (part.shift bytes) := by
  cases h with
  | literal text => exact .literal text
  | hole hole classified hok =>
    have hshifted : classify (hole.shift bytes) = .ok (classified.shift bytes) := by
      rw [classify_shift, hok, mapBoth_ok]
    have hpart : (Part.ofClassified classified).shift bytes = .ofClassified (classified.shift bytes) := by
      cases classified <;> rfl
    rw [hpart]
    exact .hole _ _ hshifted

end

/-! ## Numbering -/

theorem partColumns_shift (bytes : Nat) (parts : List Part) :
    partColumns (parts.map (Part.shift bytes)) = (partColumns parts).map (Column.shift bytes) := by
  unfold partColumns
  rw [List.filterMap_map, List.map_filterMap]
  congr 1
  funext part
  cases part <;> rfl

theorem partBinds_shift (bytes : Nat) (parts : List Part) :
    partBinds (parts.map (Part.shift bytes)) = (partBinds parts).map (Bind.shift bytes) := by
  unfold partBinds
  rw [List.filterMap_map, List.map_filterMap]
  congr 1
  funext part
  cases part <;> rfl

/-- The texts in the query do not depend on where the holes stand in the template. -/
theorem textsAfter_shift (bytes before : Nat) (parts : List Part) :
    textsAfter before (parts.map (Part.shift bytes)) = textsAfter before parts := by
  induction parts generalizing before with
  | nil => rfl
  | cons part parts ih =>
    rw [List.map_cons, textsAfter_cons, textsAfter_cons, ih]
    cases part <;> rfl

/-! ## Segments side by side -/

theorem Model.extend_joinSegments (segments later : List Segment) (model result : Model)
    (h : model.extend segments = .ok result) : model.extend (joinSegments segments later) = result.extend later := by
  fun_induction joinSegments segments later generalizing model with
  | case1 later =>
    rw [← Except.ok.inj h]
  | case2 a b later =>
    have hmodel : model.pushLiteral a = result := Except.ok.inj h
    have hjoined : model.pushLiteral (a ++ b) = (model.pushLiteral a).pushLiteral b := by
      simp only [Model.pushLiteral, String.append_assoc]
    rw [extend_literal, extend_literal, hjoined, hmodel]
  | case3 first rest later _ ih =>
    cases first with
    | literal text => exact ih (model.pushLiteral text) h
    | hole hole =>
      cases hclassify : classify hole with
      | error error =>
        rw [extend_hole_error _ _ hclassify] at h
        exact absurd h (by simp)
      | ok classified =>
        rw [extend_hole _ _ hclassify] at h ⊢
        exact ih (model.push classified) h

/-- A template after a compiled one is compiled with its ranges later and its parameters numbered on. -/
theorem compile_append (a b : String) (model : Model) (h : compile a = .ok model) :
    (∀ error, compile b = .error error → compile (a ++ b) = .error (error.shift (utf8Length a.toList))) ∧
    ∀ segments parts, scan b = .ok segments → List.Forall₂ Part.Of segments parts →
      compile (a ++ b) = .ok (model.addParts (parts.map (Part.shift (utf8Length a.toList)))) := by
  unfold compile at h
  cases hscan : scan a with
  | error malformed =>
    rw [hscan] at h
    exact absurd h (by simp)
  | ok front =>
    rw [hscan] at h
    have hback : ∀ segments, scan b = .ok segments →
        compile (a ++ b) = model.extend (segments.map (Segment.shift (utf8Length a.toList))) := by
      intro segments hsegments
      unfold compile
      rw [Template.scan_append a b front hscan, hsegments, mapBoth_ok]
      exact Model.extend_joinSegments front _ Model.empty model h
    refine ⟨?_, ?_⟩
    · intro error herror
      unfold compile at herror
      cases hsegments : scan b with
      | error malformed =>
        rw [hsegments] at herror
        unfold compile
        rw [Template.scan_append a b front hscan, hsegments, mapBoth_error, ← Except.error.inj herror]
        rfl
      | ok segments =>
        rw [hsegments] at herror
        rw [hback segments hsegments, Model.extend_eq_error_iff]
        exact firstRefused_shift _ segments error ((Model.extend_eq_error_iff segments Model.empty error).1 herror)
    · intro segments parts hsegments hparts
      rw [hback segments hsegments]
      apply Model.extend_parts
      rw [List.forall₂_map_left_iff, List.forall₂_map_right_iff]
      exact hparts.imp fun _ _ hof => hof.shift _

/-- Reading and compiling go over texts side by side: after an accepted text another one is read as it is alone, so many
bytes later, and two literals that meet are one; after a compiled one it is compiled as it is alone, with its parameters
numbered on.  What is wrong with the other one is wrong at the same place of it. -/
theorem scan_compile_append (a b : String) :
    (∀ segments, scan a = .ok segments →
      (∀ malformed, scan b = .error malformed →
        scan (a ++ b) = .error ⟨malformed.fault, malformed.range.shift (utf8Length a.toList)⟩) ∧
      ∀ later, scan b = .ok later →
        scan (a ++ b) = .ok (joinSegments segments (later.map (Segment.shift (utf8Length a.toList))))) ∧
    ∀ model, compile a = .ok model →
      (∀ error, compile b = .error error → compile (a ++ b) = .error (error.shift (utf8Length a.toList))) ∧
      ∀ later, compile b = .ok later → ∃ segments parts, scan b = .ok segments ∧ List.Forall₂ Part.Of segments parts ∧
        compile (a ++ b) = .ok {
          sql := model.sql ++ String.join (textsAfter model.binds.length parts)
          columns := model.columns ++ later.columns.map (Column.shift (utf8Length a.toList))
          binds := model.binds ++ later.binds.map (Bind.shift (utf8Length a.toList)) } := by
  refine ⟨?_, ?_⟩
  · intro segments hsegments
    rw [Template.scan_append a b segments hsegments]
    refine ⟨?_, ?_⟩
    · intro malformed h
      rw [h]
      rfl
    · intro later h
      rw [h]
      rfl
  · intro model hmodel
    obtain ⟨hfails, hcompiles⟩ := compile_append a b model hmodel
    refine ⟨hfails, ?_⟩
    intro later hlater
    obtain ⟨segments, parts, hsegments, hparts, rfl⟩ := (compile_eq_ok_iff b later).1 hlater
    refine ⟨segments, parts, hsegments, hparts, ?_⟩
    rw [hcompiles segments parts hsegments hparts, Model.addParts, textsAfter_shift, partColumns_shift,
      partBinds_shift, Model.ofParts_columns, Model.ofParts_binds]

/-- A text that ends with a literal, to stand before one that begins with a literal. -/
def frontText : String := "{bind: k, i64} = "

def backText : String := "n{m, i32}{bind: k, Uuid}"

def frontModel : Model :=
  ⟨"$1 = ", [], [⟨"k", ⟨"i64", .int64, false⟩, ⟨0, 14⟩⟩]⟩

def backModel : Model :=
  ⟨"nm$1", [⟨"m", ⟨"i32", .int32, false⟩, none, ⟨1, 9⟩⟩], [⟨"k", ⟨"Uuid", .uuid, false⟩, ⟨9, 24⟩⟩]⟩

theorem scan_compile_append_joined :
    compile frontText = .ok frontModel ∧ compile backText = .ok backModel ∧
      (∃ segments parts, scan backText = .ok segments ∧ List.Forall₂ Part.Of segments parts ∧
        compile (frontText ++ backText) = .ok {
          sql := "$1 = " ++ String.join (textsAfter 1 parts)
          columns := [⟨"m", ⟨"i32", .int32, false⟩, none, ⟨18, 26⟩⟩]
          binds := [⟨"k", ⟨"i64", .int64, false⟩, ⟨0, 14⟩⟩, ⟨"k", ⟨"Uuid", .uuid, false⟩, ⟨26, 41⟩⟩] }) ∧
      (∃ hole, scan (frontText ++ "n\x7d") = .error ⟨.unmatchedBrace, ⟨18, 19⟩⟩ ∧
        scan (frontText ++ "n") = .ok [.hole hole, .literal " = n"]) := by
  have hfront : compile frontText = .ok frontModel := (compile_ofList _).trans (by decide +kernel)
  have hback : compile backText = .ok backModel := (compile_ofList _).trans (by decide +kernel)
  refine ⟨hfront, hback, ((scan_compile_append frontText backText).2 frontModel hfront).2 backModel hback, ?_⟩
  have hscan : scan frontText = .ok [.hole ⟨[⟨some "bind", "k", ⟨1, 8⟩⟩, ⟨none, "i64", ⟨10, 13⟩⟩], ⟨0, 14⟩⟩,
      .literal " = "] := by decide +kernel
  have hfails : scan "n\x7d" = .error ⟨.unmatchedBrace, ⟨1, 2⟩⟩ := by decide +kernel
  have hends : scan "n" = .ok [.literal "n"] := by decide +kernel
  exact ⟨_, ((scan_compile_append frontText "n\x7d").1 _ hscan).1 _ hfails,
    ((scan_compile_append frontText "n").1 _ hscan).2 _ hends⟩

end TypedStatement
