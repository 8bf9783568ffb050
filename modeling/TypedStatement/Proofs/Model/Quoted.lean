import TypedStatement.Diagnostic
import TypedStatement.Proofs.Model.Concatenation
import TypedStatement.Proofs.Template.Quoted
import TypedStatement.Proofs.TypeRef.Acceptance

/-!
# Statements with quoted names

A quoted text is the name of what its hole stands for, whatever it is (`compile_quoted`).  So a bare name may be quoted
instead: the template is read in the same way but for places (`SameReading`), and compiled to the same model but for places.
-/

namespace TypedStatement
set_option autoImplicit false

open Source.StringLiteral (Spells between)
open Template (Argument ArgumentDraft BareName Hole HoleDraft IsQuoted Malformed Padding Requotes Segment
  joinSegments quoted scan)
open Text (ByteRange)

/-! ## Literals -/

theorem literalText?_of_spells (inside value : List Char) (h : Spells inside value) :
    literalText? (String.ofList (between inside)) = some (String.ofList value) := by
  have hhead : (String.ofList (between inside)).toList.head? = some '"' := by
    rw [String.toList_ofList, between, List.head?_cons]
  unfold literalText?
  rw [if_pos hhead, h.tokens?]
  exact h.value?

theorem literalText?_quoted (text : String) : literalText? (quoted text) = some text := by
  have h := literalText?_of_spells _ _ (Template.spells_escaped text.toList)
  rwa [String.ofList_toList] at h

/-! ## Apart from places -/

/-- What is reported of an error, apart from its place. -/
def StatementError.unplaced (error : StatementError) : Diagnostic :=
  { error.diagnostic with range := none }

def Column.unplaced (column : Column) : Column :=
  { column with range := ⟨0, 0⟩ }

def Bind.unplaced (bind : Bind) : Bind :=
  { bind with range := ⟨0, 0⟩ }

def Classified.unplaced : Classified → Classified
  | .column c => .column c.unplaced
  | .bind b => .bind b.unplaced

def Model.unplaced (model : Model) : Model :=
  { model with columns := model.columns.map Column.unplaced, binds := model.binds.map Bind.unplaced }

/-- A result apart from places; `value` takes them from what was made. -/
def unplaced {α : Type} (value : α → α) (result : Except StatementError α) : Except Diagnostic α :=
  (result.mapError StatementError.unplaced).map value

theorem unplaced_shift (error : StatementError) (bytes : Nat) : (error.shift bytes).unplaced = error.unplaced := by
  cases error with
  | invalidFieldName name kind range => cases kind <;> rfl
  | _ => rfl

theorem classified_unplaced_shift (classified : Classified) (bytes : Nat) :
    (classified.shift bytes).unplaced = classified.unplaced := by
  cases classified <;> rfl

theorem unplaced_pushLiteral (model : Model) (text : String) :
    (model.pushLiteral text).unplaced = model.unplaced.pushLiteral text := rfl

theorem unplaced_push (model : Model) (classified : Classified) :
    (model.push classified).unplaced = model.unplaced.push classified.unplaced := by
  cases classified with
  | column c => simp [Model.push, Model.pushColumn, Model.unplaced, Classified.unplaced, Column.unplaced]
  | bind b => simp [Model.push, Model.pushBind, Model.unplaced, Classified.unplaced, Bind.unplaced]

/-! ## Holes -/

/-- What the hole stands for, apart from places. -/
def meaning (hole : Hole) : Except Diagnostic Classified :=
  unplaced Classified.unplaced (classify hole)

theorem meaning_shift (hole : Hole) (bytes : Nat) : meaning (hole.shift bytes) = meaning hole := by
  unfold meaning
  rw [classify_shift]
  cases classify hole with
  | error error => exact congrArg Except.error (unplaced_shift error bytes)
  | ok classified => exact congrArg Except.ok (classified_unplaced_shift classified bytes)

theorem classifyColumn_unplaced (range other : ByteRange) (name : String) (type : TypeRef) (later : List Argument)
    (bytes : Nat) :
    unplaced Column.unplaced (classifyColumn other name type (later.map (Argument.shift bytes))) =
      unplaced Column.unplaced (classifyColumn range name type later) := by
  cases later with
  | nil => rfl
  | cons third later =>
    rw [List.map_cons, classifyColumn, classifyColumn, classifyAlias_shift]
    cases classifyAlias name third with
    | error error => exact congrArg Except.error (unplaced_shift error bytes)
    | ok aliasName => cases later <;> rfl

theorem unplaced_map_column (result : Except StatementError Column) :
    unplaced Classified.unplaced (result.map .column) = (unplaced Column.unplaced result).map .column := by
  cases result <;> rfl

theorem meaning_requoted (hole other : Hole) (h : Requotes hole other)
    (hname : ∀ first, hole.arguments.head? = some first → literalText? first.value = some first.value) :
    meaning other = meaning hole := by
  obtain ⟨arguments, range⟩ := hole
  obtain ⟨others, place⟩ := other
  obtain ⟨first, spot, later, bytes, rfl, rfl⟩ := h
  have hbare := hname first rfl
  cases later with
  | nil => rfl
  | cons second later =>
    have hlabel : Argument.hasLabel ⟨first.label, quoted first.value, spot⟩ "bind" = first.hasLabel "bind" := rfl
    have hsecond : (second.shift bytes).value = second.value := rfl
    simp only [meaning, classify, List.map_cons, hlabel, hsecond, hbare, literalText?_quoted]
    cases TypeRef.parse second.value with
    | none => rfl
    | some type =>
      cases first.hasLabel "bind" with
      | true => rfl
      | false =>
        have hcolumn := classifyColumn_unplaced range place first.value type later bytes
        simp only [Bool.false_eq_true, if_false]
        rw [unplaced_map_column, hcolumn, unplaced_map_column]

/-! ## Templates -/

/-- The same literal text, or holes that stand for the same. -/
inductive SamePart : Segment → Segment → Prop
  | literal (text : String) : SamePart (.literal text) (.literal text)
  | hole (hole other : Hole) : meaning other = meaning hole → SamePart (.hole hole) (.hole other)

theorem SamePart.refl (segment : Segment) : SamePart segment segment := by
  cases segment with
  | literal text => exact .literal text
  | hole hole => exact .hole hole hole rfl

theorem SamePart.shift {segment other : Segment} (h : SamePart segment other) (m n : Nat) :
    SamePart (segment.shift m) (other.shift n) := by
  cases h with
  | literal text => exact .literal text
  | hole hole other hsame =>
    refine .hole _ _ ?_
    rw [meaning_shift, meaning_shift, hsame]

/-- Templates with the same fault, or with segments that stand for the same. -/
inductive SameReading : Except Malformed (List Segment) → Except Malformed (List Segment) → Prop
  | error (malformed other : Malformed) : malformed.fault = other.fault → SameReading (.error malformed) (.error other)
  | ok (segments others : List Segment) : List.Forall₂ SamePart segments others →
    SameReading (.ok segments) (.ok others)

theorem SameReading.refl (reading : Except Malformed (List Segment)) : SameReading reading reading := by
  cases reading with
  | error malformed => exact .error malformed malformed rfl
  | ok segments => exact .ok segments segments (List.forall₂_same.2 fun segment _ => SamePart.refl segment)

theorem sameParts_join {segments others later rest : List Segment} (h : List.Forall₂ SamePart segments others)
    (hlater : List.Forall₂ SamePart later rest) :
    List.Forall₂ SamePart (joinSegments segments later) (joinSegments others rest) := by
  induction h with
  | nil => exact hlater
  | cons hfirst htail ih =>
    cases hfirst with
    | hole hole other hsame =>
      rw [Template.joinSegments_hole, Template.joinSegments_hole]
      exact .cons (.hole hole other hsame) ih
    | literal text =>
      cases htail with
      | cons hnext htail => exact .cons (.literal text) ih
      | nil =>
        -- the literal meets what comes after it
        cases hlater with
        | nil => exact .cons (.literal text) .nil
        | cons hmet hlater =>
          cases hmet with
          | literal b => exact .cons (.literal (text ++ b)) hlater
          | hole hole other hsame => exact .cons (.literal text) (.cons (.hole hole other hsame) hlater)

theorem SameReading.append {a b c d : String} {segments others : List Segment} (ha : scan a = .ok segments)
    (hc : scan c = .ok others) (hfront : List.Forall₂ SamePart segments others) (h : SameReading (scan b) (scan d)) :
    SameReading (scan (a ++ b)) (scan (c ++ d)) := by
  rw [Template.scan_append a b segments ha, Template.scan_append c d others hc]
  generalize scan b = back, scan d = tail at h
  cases h with
  | error malformed other hfault => exact .error _ _ hfault
  | ok later rest hlater =>
    refine .ok _ _ (sameParts_join hfront ?_)
    rw [List.forall₂_map_left_iff, List.forall₂_map_right_iff]
    exact hlater.imp fun _ _ hpart => hpart.shift _ _

/-! ## Models -/

theorem extend_sameParts {segments others : List Segment} (h : List.Forall₂ SamePart segments others)
    (model other : Model) (hmodel : model.unplaced = other.unplaced) :
    unplaced Model.unplaced (model.extend segments) = unplaced Model.unplaced (other.extend others) := by
  induction h generalizing model other with
  | nil => exact congrArg Except.ok hmodel
  | cons hfirst _ ih =>
    cases hfirst with
    | literal text =>
      apply ih
      rw [unplaced_pushLiteral, unplaced_pushLiteral, hmodel]
    | hole first second hsame =>
      unfold meaning at hsame
      cases hfirst : classify first with
      | error error =>
        cases hsecond : classify second with
        | error found =>
          rw [hfirst, hsecond] at hsame
          rw [Model.extend_hole_error _ _ hfirst, Model.extend_hole_error _ _ hsecond]
          exact congrArg Except.error (Except.error.inj hsame).symm
        | ok classified =>
          rw [hfirst, hsecond] at hsame
          exact absurd hsame (by simp [unplaced, Except.mapError, Except.map])
      | ok classified =>
        cases hsecond : classify second with
        | error found =>
          rw [hfirst, hsecond] at hsame
          exact absurd hsame (by simp [unplaced, Except.mapError, Except.map])
        | ok found =>
          rw [hfirst, hsecond] at hsame
          have hclassified : found.unplaced = classified.unplaced := Except.ok.inj hsame
          rw [Model.extend_hole _ _ hfirst, Model.extend_hole _ _ hsecond]
          apply ih
          rw [unplaced_push, unplaced_push, hmodel, hclassified]

theorem compile_sameReading (a b : String) (h : SameReading (scan a) (scan b)) :
    unplaced Model.unplaced (compile a) = unplaced Model.unplaced (compile b) := by
  unfold compile
  generalize scan a = first, scan b = second at h
  cases h with
  | error malformed other hfault =>
    obtain ⟨fault, range⟩ := malformed
    obtain ⟨found, place⟩ := other
    have hfault : fault = found := hfault
    rw [hfault]
    rfl
  | ok segments others hparts => exact extend_sameParts hparts Model.empty Model.empty rfl

/-- Between accepted text and any other text, holes that stand for the same are compiled to the same. -/
theorem compile_sameHole (before after x y : String) (segments : List Segment) (hole other : Hole)
    (hbefore : scan before = .ok segments) (hx : scan x = .ok [.hole hole]) (hy : scan y = .ok [.hole other])
    (hsame : meaning other = meaning hole) :
    unplaced Model.unplaced (compile (before ++ x ++ after)) = unplaced Model.unplaced (compile (before ++ y ++ after)) := by
  have hholes : List.Forall₂ SamePart [.hole hole] [.hole other] := .cons (.hole hole other hsame) .nil
  have hback := SameReading.append hx hy hholes (SameReading.refl (scan after))
  have hfront := List.forall₂_same.2 fun segment (_ : segment ∈ segments) => SamePart.refl segment
  rw [String.append_assoc, String.append_assoc]
  exact compile_sameReading _ _ (SameReading.append hbefore hbefore hfront hback)

/-! ## Columns and parameters -/

theorem parse_registered (spelling : String) (scalar : Scalar) (h : (spelling, scalar) ∈ Scalar.registry) :
    Text.isAsciiName spelling.toList = true ∧ TypeRef.parse spelling = some ⟨spelling, scalar, false⟩ := by
  have hlookup := Scalar.lookup_of_mem_registry h
  exact ⟨Scalar.isAsciiName_of_lookup hlookup, TypeRef.parse_display hlookup false⟩

theorem isBlank_nothing : Text.isBlank [] = true := rfl

theorem isBlank_space : Text.isBlank [' '] = true := rfl

def tight : Padding := ⟨[], isBlank_nothing⟩

def spaced : Padding := ⟨[' '], isBlank_space⟩

/-- A column as it is written, with its name and its alias quoted. -/
def quotedColumn (name type aliasName : String) : HoleDraft where
  arguments := [
    ⟨none, quoted name, tight, tight, tight, tight⟩,
    ⟨none, type, spaced, tight, tight, tight⟩,
    ⟨some "as", quoted aliasName, spaced, tight, tight, spaced⟩]
  trailing := none

/-- A parameter as it is written, with its name quoted. -/
def quotedBind (name type : String) : HoleDraft where
  arguments := [
    ⟨some "bind", quoted name, tight, tight, tight, spaced⟩,
    ⟨none, type, spaced, tight, tight, tight⟩]
  trailing := none

theorem quotedColumn_isSafe (name type aliasName : String) (htype : Text.isAsciiName type.toList = true) :
    (quotedColumn name type aliasName).IsSafe := by
  refine ⟨by simp [quotedColumn], ?_⟩
  intro index argument hargument
  match index, hargument with
  | 0, hargument =>
    obtain rfl := Option.some.inj hargument
    exact ArgumentDraft.isSafe_quoted _ _ name rfl (by simp)
  | 1, hargument =>
    obtain rfl := Option.some.inj hargument
    exact ArgumentDraft.isSafe_name _ _ rfl htype
  | 2, hargument =>
    obtain rfl := Option.some.inj hargument
    refine ArgumentDraft.isSafe_quoted _ _ aliasName rfl ?_
    intro label hlabel
    rw [← Option.some.inj hlabel]
    decide
  | _ + 3, hargument => exact absurd hargument (by simp [quotedColumn])

theorem quotedBind_isSafe (name type : String) (htype : Text.isAsciiName type.toList = true) :
    (quotedBind name type).IsSafe := by
  refine ⟨by simp [quotedBind], ?_⟩
  intro index argument hargument
  match index, hargument with
  | 0, hargument =>
    obtain rfl := Option.some.inj hargument
    refine ArgumentDraft.isSafe_quoted _ _ name rfl ?_
    intro label hlabel
    rw [← Option.some.inj hlabel]
    decide
  | 1, hargument =>
    obtain rfl := Option.some.inj hargument
    exact ArgumentDraft.isSafe_name _ _ rfl htype
  | _ + 2, hargument => exact absurd hargument (by simp [quotedBind])

theorem quotedColumn_text (name type aliasName : String) :
    String.ofList (quotedColumn name type aliasName).text =
      "\x7b" ++ quoted name ++ ", " ++ type ++ ", as: " ++ quoted aliasName ++ "\x7d" := by
  apply String.toList_inj.1
  simp [quotedColumn, tight, spaced, HoleDraft.text, HoleDraft.body, Template.commaSeparated, ArgumentDraft.text,
    ArgumentDraft.core]

theorem quotedBind_text (name type : String) :
    String.ofList (quotedBind name type).text = "\x7bbind: " ++ quoted name ++ ", " ++ type ++ "\x7d" := by
  apply String.toList_inj.1
  simp [quotedBind, tight, spaced, HoleDraft.text, HoleDraft.body, Template.commaSeparated, ArgumentDraft.text,
    ArgumentDraft.core]

theorem compile_hole (template : String) (hole : Hole) (classified : Classified) (hscan : scan template = .ok [.hole hole])
    (hclassify : classify hole = .ok classified) : compile template = .ok (Model.empty.push classified) := by
  rw [compile_of_scan hscan, Model.build, Model.extend_hole _ _ hclassify, Model.extend_nil]

section
variable (name type : String) (scalar : Scalar) (htype : (type, scalar) ∈ Scalar.registry)
include htype

theorem compile_quotedColumn (aliasName : String) (halias : aliasName ≠ "") : ∃ range,
    compile ("\x7b" ++ quoted name ++ ", " ++ type ++ ", as: " ++ quoted aliasName ++ "\x7d") =
      .ok ⟨name ++ " AS " ++ aliasName, [⟨name, ⟨type, scalar, false⟩, some aliasName, range⟩], []⟩ := by
  obtain ⟨hname, hparse⟩ := parse_registered type scalar htype
  have hscan := (quotedColumn name type aliasName).scan_text (quotedColumn_isSafe name type aliasName hname)
  have hthird : ∀ range, classifyAlias name ⟨some "as", quoted aliasName, range⟩ = .ok aliasName := by
    intro range
    simp [classifyAlias, Argument.hasLabel, literalText?_quoted, halias]
  have hclassify : classify ((quotedColumn name type aliasName).hole 0) = .ok (.column
      ⟨name, ⟨type, scalar, false⟩, some aliasName, ((quotedColumn name type aliasName).hole 0).range⟩) := by
    simp [quotedColumn, HoleDraft.hole, Template.argumentsAt, ArgumentDraft.argument, classify, Argument.hasLabel, hparse,
      literalText?_quoted, classifyColumn, hthird, Except.map]
  refine ⟨((quotedColumn name type aliasName).hole 0).range, ?_⟩
  rw [← quotedColumn_text, compile_hole _ _ _ hscan hclassify]
  simp [Model.push, Model.pushColumn, Model.empty, String.append_assoc]

theorem compile_quotedBind : ∃ range,
    compile ("\x7bbind: " ++ quoted name ++ ", " ++ type ++ "\x7d") =
      .ok ⟨"$1", [], [⟨name, ⟨type, scalar, false⟩, range⟩]⟩ := by
  obtain ⟨hname, hparse⟩ := parse_registered type scalar htype
  have hscan := (quotedBind name type).scan_text (quotedBind_isSafe name type hname)
  have hclassify : classify ((quotedBind name type).hole 0) =
      .ok (.bind ⟨name, ⟨type, scalar, false⟩, ((quotedBind name type).hole 0).range⟩) := by
    simp [quotedBind, HoleDraft.hole, Template.argumentsAt, ArgumentDraft.argument, classify, Argument.hasLabel, hparse,
      literalText?_quoted]
  refine ⟨((quotedBind name type).hole 0).range, ?_⟩
  rw [← quotedBind_text, compile_hole _ _ _ hscan hclassify]
  rfl

end

/-! ## Quoted texts are names -/

/-- The name of a column or a parameter. -/
def Classified.name : Classified → String
  | .column c => c.name
  | .bind b => b.name

theorem name_of_classifyColumn (range : ByteRange) (name : String) (type : TypeRef) (later : List Argument)
    (column : Column) (h : classifyColumn range name type later = .ok column) : column.name = name := by
  cases later with
  | nil => rw [← Except.ok.inj h]
  | cons third later =>
    rw [classifyColumn] at h
    cases halias : classifyAlias name third with
    | error error =>
      rw [halias] at h
      exact absurd h (by simp)
    | ok aliasName =>
      rw [halias] at h
      cases later with
      | nil => rw [← Except.ok.inj h]
      | cons fourth later => exact absurd h (by simp)

theorem exists_name_of_classify (hole : Hole) (classified : Classified) (h : classify hole = .ok classified) :
    ∃ first, hole.arguments.head? = some first ∧ literalText? first.value = some classified.name := by
  obtain ⟨arguments, range⟩ := hole
  rcases arguments with _ | ⟨first, _ | ⟨second, later⟩⟩
  · exact absurd h (by simp [classify])
  · exact absurd h (by simp [classify])
  · refine ⟨first, rfl, ?_⟩
    unfold classify at h
    dsimp only at h
    cases htype : TypeRef.parse second.value with
    | none =>
      rw [htype] at h
      exact absurd h (by simp)
    | some type =>
      rw [htype] at h
      cases hname : literalText? first.value with
      | none =>
        rw [hname] at h
        exact absurd h (by simp)
      | some name =>
        rw [hname] at h
        cases hlabel : first.hasLabel "bind" with
        | true =>
          simp only [hlabel, if_true] at h
          rw [← Except.ok.inj h, Classified.name]
        | false =>
          simp only [hlabel, Bool.false_eq_true, if_false] at h
          obtain ⟨column, hcolumn, rfl⟩ := (map_eq_ok_iff _ _ _).1 h
          rw [Classified.name, name_of_classifyColumn range name type later column hcolumn]

/-- What is quoted is read by the rules of string literals. -/
theorem literalText?_between_iff (inside : List Char) (text : String) (h : IsQuoted inside) :
    literalText? (String.ofList (between inside)) = some text ↔ Spells inside text.toList := by
  constructor
  · intro hread
    obtain ⟨tokens, htokens⟩ : ∃ tokens, Source.tokens? (String.ofList (between inside)) = some tokens := by
      rw [← Option.isSome_iff_exists, ← Option.ne_none_iff_isSome]
      intro hnone
      have hhead : (String.ofList (between inside)).toList.head? = some '"' := by
        rw [String.toList_ofList, between, List.head?_cons]
      rw [literalText?, if_pos hhead, hnone] at hread
      exact absurd hread (by simp)
    obtain ⟨value, after, hvalue⟩ := Source.StringLiteral.exists_read_of_tokens? (inside ++ ['"']) tokens htokens
    obtain ⟨found, hfound, hspells⟩ := (Source.StringLiteral.read_eq_some_iff _ value after).1 hvalue
    -- the scanner and the reader agree on where the literal ends
    obtain ⟨rfl, -⟩ := IsQuoted.unique h (Template.isQuoted_of_spells found value hspells) hfound
    rw [literalText?_of_spells inside value hspells] at hread
    rwa [← Option.some.inj hread, String.toList_ofList]
  · intro hspells
    have hread := literalText?_of_spells inside _ hspells
    rwa [String.ofList_toList] at hread

/-- Every text, whatever it holds, can be quoted as the name of a column, its alias, or the name of a parameter, and comes back
unchanged.  A bare name may be quoted anywhere in a template, and literals are read by their rules. -/
theorem compile_quoted :
    (∀ (name aliasName type : String) (scalar : Scalar), aliasName ≠ "" → (type, scalar) ∈ Scalar.registry → ∃ range,
      compile ("\x7b" ++ quoted name ++ ", " ++ type ++ ", as: " ++ quoted aliasName ++ "\x7d") =
        .ok ⟨name ++ " AS " ++ aliasName, [⟨name, ⟨type, scalar, false⟩, some aliasName, range⟩], []⟩) ∧
    (∀ (name type : String) (scalar : Scalar), (type, scalar) ∈ Scalar.registry → ∃ range,
      compile ("\x7bbind: " ++ quoted name ++ ", " ++ type ++ "\x7d") =
        .ok ⟨"$1", [], [⟨name, ⟨type, scalar, false⟩, range⟩]⟩) ∧
    (∀ lead name tail hole classified, BareName lead name tail hole → classify hole = .ok classified →
      classified.name = name → ∀ before after segments, scan before = .ok segments →
        unplaced Model.unplaced (compile (before ++ ("\x7b" ++ lead ++ quoted name ++ tail) ++ after)) =
          unplaced Model.unplaced (compile (before ++ ("\x7b" ++ lead ++ name ++ tail) ++ after))) ∧
    ∀ inside text, IsQuoted inside →
      (literalText? (String.ofList (between inside)) = some text ↔ Spells inside text.toList) := by
  refine ⟨?_, ?_, ?_, literalText?_between_iff⟩
  · intro name aliasName type scalar halias htype
    exact compile_quotedColumn name type scalar htype aliasName halias
  · exact compile_quotedBind
  · intro lead name tail hole classified hbare hclassify hname before after segments hbefore
    obtain ⟨other, hother, hrequotes⟩ := Template.exists_quoted_hole lead name tail hole hbare
    obtain ⟨first, hfirst, hliteral⟩ := exists_name_of_classify hole classified hclassify
    obtain ⟨_, hsame, hvalue, -⟩ := hbare.first
    rw [hfirst] at hsame
    obtain rfl := Option.some.inj hsame
    have hmeaning : meaning other = meaning hole := by
      apply meaning_requoted hole other hrequotes
      intro found hfound
      rw [hfirst] at hfound
      rw [← Option.some.inj hfound, hliteral, hname, hvalue]
    exact compile_sameHole before after _ _ segments other hole hbefore hother hbare.scan hmeaning.symm

/-- Everything that means something in a hole, a line break, a return and letters of other scripts. -/
def everyMark : String := "\x7b\x7d \"\\,:<(] é\r\n界"

theorem compile_quoted_everyMark :
    (∃ range, compile ("\x7b" ++ quoted everyMark ++ ", " ++ "Int" ++ ", as: " ++ quoted everyMark ++ "\x7d") =
      .ok ⟨everyMark ++ " AS " ++ everyMark, [⟨everyMark, ⟨"Int", .int64, false⟩, some everyMark, range⟩], []⟩) ∧
    (∃ range, compile ("\x7bbind: " ++ quoted everyMark ++ ", " ++ "Uuid" ++ "\x7d") =
      .ok ⟨"$1", [], [⟨everyMark, ⟨"Uuid", .uuid, false⟩, range⟩]⟩) ∧
    unplaced Model.unplaced (compile ("é = " ++ ("\x7b" ++ " bind :\n" ++ quoted "count(a,b)" ++ ",i32,\x7d") ++ ";")) =
      unplaced Model.unplaced (compile ("é = " ++ ("\x7b" ++ " bind :\n" ++ "count(a,b)" ++ ",i32,\x7d") ++ ";")) ∧
    literalText? (quoted everyMark) = some everyMark := by
  obtain ⟨hcolumn, hbind, hbare, hrules⟩ := compile_quoted
  have hspells := Template.spells_escaped everyMark.toList
  refine ⟨hcolumn everyMark everyMark "Int" .int64 (by decide) (by decide),
    hbind everyMark "Uuid" .uuid (by decide), ?_, (hrules _ _ (Template.isQuoted_of_spells _ _ hspells)).2 hspells⟩
  have hname : BareName " bind :\n" "count(a,b)" ",i32,\x7d"
      ⟨[⟨some "bind", "count(a,b)", ⟨2, 19⟩⟩, ⟨none, "i32", ⟨20, 23⟩⟩], ⟨0, 25⟩⟩ :=
    ⟨by decide +kernel, ⟨_, rfl, rfl, by decide⟩⟩
  exact hbare _ _ _ _ (.bind ⟨"count(a,b)", ⟨"i32", .int32, false⟩, ⟨0, 25⟩⟩) hname (by decide +kernel) rfl "é = " ";"
    [.literal "é = "] (by decide +kernel)

end TypedStatement
