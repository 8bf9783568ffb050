import TypedStatement.Proofs.FirstFault
import TypedStatement.Proofs.Model.Spelling
import TypedStatement.Proofs.Source.LiteralRules
import TypedStatement.Proofs.TypeRef.Acceptance

/-!
# The check that fails first

The arguments of a hole are checked in a fixed order, the type before the name, and the first check that fails gives the error
(`classify_reports_first`).  `Fails` says what each check is, without following the classifier, from what a value is as a text
(`Gives`) and as a type (`TypeRef.SpellsType`).
-/

namespace TypedStatement
set_option autoImplicit false

open Source (Token symbols tokens?)
open Source.StringLiteral (Spells between)
open Template (Argument Hole)
open Text (ByteRange isWhiteSpace)

/-! ## Texts that are given -/

/-- The text that a value gives: what a string literal spells, if the value is one token that begins with the literal, or the
value itself, if it is free of white space and quotes. -/
inductive Gives (value : String) : String → Prop
  | quoted (inside rest : List Char) (text literal : String) : value.toList = between inside ++ rest →
    Spells inside text.toList → tokens? value = some [.literal literal] → Gives value text
  | bare : (∀ c ∈ value.toList, isWhiteSpace c = false ∧ c ≠ '"') → Gives value value

theorem literalText?_eq_some_iff (value text : String) : literalText? value = some text ↔ Gives value text := by
  unfold literalText?
  constructor
  · intro h
    split at h
    · rename_i hquote
      split at h
      · rename_i literal htokens
        -- the value is one token, so the lexer has found the end of the literal
        obtain ⟨rest, hrest⟩ := List.head?_eq_some_iff.1 hquote
        have hsame : String.ofList ('"' :: rest) = value := by rw [← hrest, String.ofList_toList]
        rw [← hsame] at htokens
        obtain ⟨spelled, after, hread⟩ := Source.StringLiteral.exists_read_of_tokens? rest _ htokens
        obtain ⟨inside, hinside, hspells⟩ := (Source.StringLiteral.read_eq_some_iff rest spelled after).1 hread
        have hvalue : value.toList = between inside ++ after := by
          rw [hrest, hinside, between, List.cons_append, List.append_assoc]
          rfl
        rw [hsame] at htokens
        rw [hspells.value?_of_tokens? hvalue htokens] at h
        rw [← Option.some.inj h]
        exact .quoted inside after _ literal hvalue (by rwa [String.toList_ofList]) htokens
      · exact absurd h (by simp)
    · split at h
      · exact absurd h (by simp)
      · rename_i hbare
        rw [← Option.some.inj h]
        refine .bare fun c hc => ?_
        have hnot : ¬ (isWhiteSpace c || c == '"') = true := fun hany => hbare (List.any_eq_true.2 ⟨c, hc, hany⟩)
        simpa using hnot
  · rintro (⟨inside, rest, _, literal, hvalue, hspells, htokens⟩ | hbare)
    · have hquote : value.toList.head? = some '"' := by rw [hvalue]; rfl
      rw [if_pos hquote, htokens]
      dsimp only
      rw [hspells.value?_of_tokens? hvalue htokens, String.ofList_toList]
    · have hquote : value.toList.head? ≠ some '"' := fun hhead => (hbare '"' (List.mem_of_mem_head? hhead)).2 rfl
      rw [if_neg hquote, if_neg]
      rw [List.any_eq_true]
      rintro ⟨c, hc, hany⟩
      obtain ⟨hwhite, hne⟩ := hbare c hc
      simp [hwhite, hne] at hany

theorem literalText?_eq_none_iff (value : String) : literalText? value = none ↔ ∀ text, ¬ Gives value text := by
  rw [Option.eq_none_iff_forall_ne_some]
  exact forall_congr' fun text => not_congr (literalText?_eq_some_iff value text)

/-- The name that errors show for a value. -/
inductive ShowsName (value : String) : String → Prop
  | given (text : String) : Gives value text → ShowsName value text
  | invalid : (∀ text, ¬ Gives value text) → ShowsName value "<invalid>"

theorem showsName_iff (value shown : String) : ShowsName value shown ↔ shown = (literalText? value).getD "<invalid>" := by
  cases hliteral : literalText? value with
  | some text =>
    have hgives := (literalText?_eq_some_iff value text).1 hliteral
    constructor
    · rintro (⟨_, hother⟩ | hnone)
      · exact Option.some.inj (((literalText?_eq_some_iff value _).2 hother).symm.trans hliteral)
      · exact absurd hgives (hnone text)
    · rintro rfl
      exact .given _ hgives
  | none =>
    have hnone := (literalText?_eq_none_iff value).1 hliteral
    constructor
    · rintro (⟨_, hother⟩ | -)
      · exact absurd hother (hnone _)
      · rfl
    · rintro rfl
      exact .invalid hnone

/-! ## Checks -/

/-- The value is that of a type. -/
def IsType (value : String) (type : TypeRef) : Prop :=
  ∃ tokens, tokens? value = some tokens ∧ TypeRef.SpellsType (symbols tokens) type

/-- What is checked of the arguments of a hole. -/
inductive Check where
  /-- There are two arguments. -/
  | arguments
  /-- The second one is a type. -/
  | type
  /-- The first one gives a name. -/
  | name
  /-- The third one of a column is labelled `as`, -/
  | aliasLabel
  /-- gives a name, -/
  | aliasText
  /-- which is not empty. -/
  | aliasPresent
  /-- A column has no fourth argument. -/
  | extra
  deriving DecidableEq

namespace Check

def ofAlias : List Check :=
  [.aliasLabel, .aliasText, .aliasPresent]

/-- The checks that only columns have. -/
def ofColumn : List Check :=
  ofAlias ++ [.extra]

/-- The checks in their order. -/
def all : List Check :=
  .arguments :: .type :: .name :: ofColumn

end Check

/-- A hole whose first argument is labelled `bind` is a parameter, every other one a column. -/
def kindOf (first : Argument) : HoleKind :=
  if first.label = some "bind" then .bind else .column

/-- The errors of the arguments after the type of a column. -/
inductive FailsAfterType (column : String) : List Argument → Check → StatementError → Prop
  | aliasLabel (third : Argument) (later : List Argument) : third.label ≠ some "as" →
    FailsAfterType column (third :: later) .aliasLabel (malformed (.unlabelledAlias column third.value) third.range)
  | aliasText (third : Argument) (later : List Argument) : (∀ text, ¬ Gives third.value text) →
    FailsAfterType column (third :: later) .aliasText (malformed (.unreadableAlias column third.value) third.range)
  | aliasPresent (third : Argument) (later : List Argument) : Gives third.value "" →
    FailsAfterType column (third :: later) .aliasPresent (malformed (.emptyAlias column) third.range)
  | extra (third fourth : Argument) (later : List Argument) :
    FailsAfterType column (third :: fourth :: later) .extra (malformed (.extraArgument column fourth.value) fourth.range)

/-- The check fails for the arguments of a hole with this range, and the error says so. -/
inductive Fails (range : ByteRange) : List Argument → Check → StatementError → Prop
  | arguments (arguments : List Argument) : arguments.length < 2 →
    Fails range arguments .arguments (malformed .missingNameOrType range)
  | type (first second : Argument) (later : List Argument) (shown : String) : (∀ type, ¬ IsType second.value type) →
    ShowsName first.value shown →
    Fails range (first :: second :: later) .type (.unprocessableHole shown (kindOf first) range)
  | name (first second : Argument) (later : List Argument) : (∀ text, ¬ Gives first.value text) →
    Fails range (first :: second :: later) .name (malformed (.unreadableName (kindOf first) first.value) first.range)
  | afterType (first second : Argument) (later : List Argument) (column : String) (check : Check) (error : StatementError) :
    first.label ≠ some "bind" → Gives first.value column → FailsAfterType column later check error →
    Fails range (first :: second :: later) check error

/-- What a hole stands for if no check fails. -/
inductive StandsFor (range : ByteRange) : List Argument → Classified → Prop
  | bind (first second : Argument) (later : List Argument) (name : String) (type : TypeRef) : first.label = some "bind" →
    Gives first.value name → IsType second.value type →
    StandsFor range (first :: second :: later) (.bind ⟨name, type, range⟩)
  | column (first second : Argument) (name : String) (type : TypeRef) : first.label ≠ some "bind" →
    Gives first.value name → IsType second.value type →
    StandsFor range [first, second] (.column ⟨name, type, none, range⟩)
  | aliased (first second third : Argument) (name aliasName : String) (type : TypeRef) : first.label ≠ some "bind" →
    Gives first.value name → IsType second.value type → third.label = some "as" → Gives third.value aliasName →
    aliasName ≠ "" → StandsFor range [first, second, third] (.column ⟨name, type, some aliasName, range⟩)

/-! ## Columns -/

section
variable (column : String) (third : Argument) (later : List Argument)

theorem fails_aliasLabel_iff (error : StatementError) :
    FailsAfterType column (third :: later) .aliasLabel error ↔
      third.label ≠ some "as" ∧ error = malformed (.unlabelledAlias column third.value) third.range := by
  constructor
  · rintro ⟨⟩
    exact ⟨‹_›, rfl⟩
  · rintro ⟨hlabel, rfl⟩
    exact .aliasLabel third later hlabel

theorem fails_aliasText_iff (error : StatementError) :
    FailsAfterType column (third :: later) .aliasText error ↔
      literalText? third.value = none ∧ error = malformed (.unreadableAlias column third.value) third.range := by
  rw [literalText?_eq_none_iff]
  constructor
  · rintro ⟨⟩
    exact ⟨‹_›, rfl⟩
  · rintro ⟨hnone, rfl⟩
    exact .aliasText third later hnone

theorem fails_aliasPresent_iff (error : StatementError) :
    FailsAfterType column (third :: later) .aliasPresent error ↔
      literalText? third.value = some "" ∧ error = malformed (.emptyAlias column) third.range := by
  rw [literalText?_eq_some_iff]
  constructor
  · rintro ⟨⟩
    exact ⟨‹_›, rfl⟩
  · rintro ⟨hempty, rfl⟩
    exact .aliasPresent third later hempty

theorem fails_extra_iff (error : StatementError) :
    FailsAfterType column (third :: later) .extra error ↔
      ∃ fourth rest, later = fourth :: rest ∧ error = malformed (.extraArgument column fourth.value) fourth.range := by
  constructor
  · rintro ⟨⟩
    exact ⟨_, _, rfl, rfl⟩
  · rintro ⟨fourth, rest, rfl, rfl⟩
    exact .extra third fourth rest

end

theorem hasLabel_iff (argument : Argument) (label : String) :
    argument.hasLabel label = true ↔ argument.label = some label :=
  beq_iff_eq

/-- What is wrong with an alias is the first of its checks that fails. -/
theorem classifyAlias_eq_error_iff (column : String) (third : Argument) (later : List Argument) (error : StatementError) :
    classifyAlias column third = .error error ↔
      FirstFault (fun _ => FailsAfterType column (third :: later)) Check.ofAlias error := by
  unfold Check.ofAlias classifyAlias
  simp only [firstFault_cons, firstFault_nil, fails_aliasLabel_iff, fails_aliasText_iff, fails_aliasPresent_iff, and_false,
    or_false, hasLabel_iff]
  by_cases hlabel : third.label = some "as"
  · cases htext : literalText? third.value with
    | none => simp [hlabel, eq_comm]
    | some aliasName =>
      by_cases hempty : aliasName = ""
      · simpa [hlabel, hempty] using eq_comm
      · simp [hlabel, hempty]
  · simp [hlabel, eq_comm]

/-- What is wrong with the arguments after the type of a column is the first of their checks that fails. -/
theorem classifyColumn_eq_error_iff (range : ByteRange) (column : String) (type : TypeRef) (later : List Argument)
    (error : StatementError) :
    classifyColumn range column type later = .error error ↔
      FirstFault (fun _ => FailsAfterType column later) Check.ofColumn error := by
  cases later with
  | nil =>
    refine iff_of_false (by simp [classifyColumn]) ?_
    rintro ⟨_, _, _, _, hfails, -⟩
    cases hfails
  | cons third later =>
    have halias := classifyAlias_eq_error_iff column third later
    rw [Check.ofColumn, firstFault_append, firstFault_singleton, fails_extra_iff, ← halias, classifyColumn]
    simp only [← halias]
    cases classifyAlias column third with
    | error found => simp
    | ok aliasName =>
      cases later with
      | nil => simp
      | cons fourth rest => simp [eq_comm]

/-! ## Holes -/

section
variable (range : ByteRange) (first second : Argument) (later : List Argument)

theorem parse_eq_none_iff (value : String) : TypeRef.parse value = none ↔ ∀ type, ¬ IsType value type := by
  rw [Option.eq_none_iff_forall_ne_some]
  exact forall_congr' fun type => not_congr (TypeRef.parse_eq_some_iff value type)

theorem fails_type_iff (error : StatementError) :
    Fails range (first :: second :: later) .type error ↔ TypeRef.parse second.value = none ∧
      error = .unprocessableHole ((literalText? first.value).getD "<invalid>") (kindOf first) range := by
  rw [parse_eq_none_iff]
  constructor
  · intro h
    cases h with
    | type _ _ _ shown htype hshown => exact ⟨htype, by rw [(showsName_iff _ _).1 hshown]⟩
    | afterType _ _ _ _ _ _ _ _ hfails => cases hfails
  · rintro ⟨htype, rfl⟩
    exact .type first second later _ htype ((showsName_iff _ _).2 rfl)

theorem fails_name_iff (error : StatementError) :
    Fails range (first :: second :: later) .name error ↔ literalText? first.value = none ∧
      error = malformed (.unreadableName (kindOf first) first.value) first.range := by
  rw [literalText?_eq_none_iff]
  constructor
  · intro h
    cases h with
    | name _ _ _ hname => exact ⟨hname, rfl⟩
    | afterType _ _ _ _ _ _ _ _ hfails => cases hfails
  · rintro ⟨hname, rfl⟩
    exact .name first second later hname

theorem not_fails_arguments (error : StatementError) : ¬ Fails range (first :: second :: later) .arguments error := by
  intro h
  cases h with
  | arguments _ hshort => exact absurd hshort (by simp)
  | afterType _ _ _ _ _ _ _ _ hfails => cases hfails

/-- The checks of columns fail for the arguments after the type, once there is a name. -/
theorem fails_ofColumn_iff {name : String} (hname : literalText? first.value = some name) (check : Check)
    (hcheck : check ∈ Check.ofColumn) (error : StatementError) :
    Fails range (first :: second :: later) check error ↔
      first.label ≠ some "bind" ∧ FailsAfterType name later check error := by
  constructor
  · intro h
    cases h with
    | arguments => exact absurd hcheck (by decide)
    | type => exact absurd hcheck (by decide)
    | name => exact absurd hcheck (by decide)
    | afterType _ _ _ column _ _ hlabel hgives hfails =>
      obtain rfl := Option.some.inj (((literalText?_eq_some_iff _ _).2 hgives).symm.trans hname)
      exact ⟨hlabel, hfails⟩
  · rintro ⟨hlabel, hfails⟩
    exact .afterType first second later name check error hlabel ((literalText?_eq_some_iff _ _).1 hname) hfails

/-- A parameter passes all checks of columns, and a column fails the first one that its later arguments fail. -/
theorem firstFault_ofColumn_iff {name : String} (hname : literalText? first.value = some name) (error : StatementError) :
    FirstFault (fun _ => Fails range (first :: second :: later)) Check.ofColumn error ↔
      first.label ≠ some "bind" ∧ FirstFault (fun _ => FailsAfterType name later) Check.ofColumn error := by
  have hchecks := fails_ofColumn_iff range first second later hname
  by_cases hlabel : first.label = some "bind"
  · refine iff_of_false ?_ fun h => h.1 hlabel
    rintro ⟨before, check, after, hsplit, hfails, -⟩
    have hcheck : check ∈ Check.ofColumn := by rw [hsplit]; simp
    exact ((hchecks check hcheck error).1 hfails).1 hlabel
  · have hsame : ∀ check ∈ Check.ofColumn, ∀ found,
        Fails range (first :: second :: later) check found ↔ FailsAfterType name later check found :=
      fun check hcheck found => (hchecks check hcheck found).trans (and_iff_right hlabel)
    constructor
    · exact fun h => ⟨hlabel, h.congr fun _ => hsame⟩
    · exact fun h => h.2.congr fun _ check hcheck found => (hsame check hcheck found).symm

end

theorem fails_arguments (range : ByteRange) (arguments : List Argument) (h : arguments.length < 2) (error : StatementError) :
    Fails range arguments .arguments error ↔ error = malformed .missingNameOrType range := by
  constructor
  · rintro ⟨⟩
    · rfl
    · exact absurd h (by simp)
  · rintro rfl
    exact .arguments arguments h

/-- A hole is refused with the error of the first check that fails. -/
theorem classify_eq_error_iff (hole : Hole) (error : StatementError) :
    classify hole = .error error ↔ FirstFault (fun _ => Fails hole.range hole.arguments) Check.all error := by
  obtain ⟨arguments, range⟩ := hole
  rcases arguments with _ | ⟨first, _ | ⟨second, later⟩⟩
  · rw [Check.all, firstFault_cons_of_eq _ _ _ _ error (fails_arguments range [] (by simp))]
    exact error_eq_error_iff _ error
  · rw [Check.all, firstFault_cons_of_eq _ _ _ _ error (fails_arguments range [first] (by simp))]
    exact error_eq_error_iff _ error
  · unfold classify Check.all
    -- the type is checked first, although an error of the type needs the name
    simp only [firstFault_cons, not_fails_arguments, fails_type_iff, fails_name_iff, hasLabel_iff, kindOf]
    cases TypeRef.parse second.value with
    | none => simp [eq_comm]
    | some type =>
      cases hname : literalText? first.value with
      | none => simp [eq_comm]
      | some name =>
        rw [firstFault_ofColumn_iff range first second later hname, ← classifyColumn_eq_error_iff range name type later]
        by_cases hlabel : first.label = some "bind"
        · simp [hlabel]
        · simp [hlabel, map_eq_error_iff]

theorem opens_iff (hole : Hole) (kind : HoleKind) (name : String) (type : TypeRef) (later : List Argument) :
    Opens hole kind name type later ↔ ∃ first second, hole.arguments = first :: second :: later ∧
      (first.label = some "bind" ↔ kind = .bind) ∧ Gives first.value name ∧ IsType second.value type := by
  constructor
  · rintro ⟨first, second, harguments, hkind, hname, htype⟩
    exact ⟨first, second, harguments, (hasLabel_iff first "bind").symm.trans hkind, (literalText?_eq_some_iff _ _).1 hname,
      (TypeRef.parse_eq_some_iff _ _).1 htype⟩
  · rintro ⟨first, second, harguments, hkind, hname, htype⟩
    exact ⟨first, second, harguments, (hasLabel_iff first "bind").trans hkind, (literalText?_eq_some_iff _ _).2 hname,
      (TypeRef.parse_eq_some_iff _ _).2 htype⟩

theorem classify_eq_ok_iff_standsFor (hole : Hole) (classified : Classified) :
    classify hole = .ok classified ↔ StandsFor hole.range hole.arguments classified := by
  rw [classify_eq_ok_iff]
  constructor
  · rintro ⟨kind, name, type, later, hopens, hclassified⟩
    obtain ⟨first, second, harguments, hkind, hname, htype⟩ := (opens_iff _ _ _ _ _).1 hopens
    rw [harguments]
    cases kind with
    | bind =>
      rw [show classified = _ from hclassified]
      exact .bind first second later name type (hkind.2 rfl) hname htype
    | column =>
      have hcolumn : first.label ≠ some "bind" := fun h => absurd (hkind.1 h) (by simp)
      obtain ⟨aliasName, halias, rfl⟩ := hclassified
      cases halias with
      | none => exact .column first second name type hcolumn hname htype
      | some hlabel htext hne =>
        exact .aliased first second _ name _ type hcolumn hname htype ((hasLabel_iff _ _).1 hlabel)
          ((literalText?_eq_some_iff _ _).1 htext) hne
  · obtain ⟨arguments, range⟩ := hole
    intro h
    cases h with
    | bind first second later name type hlabel hname htype =>
      exact ⟨.bind, name, type, later, (opens_iff _ _ _ _ _).2 ⟨first, second, rfl, by simp [hlabel], hname, htype⟩, rfl⟩
    | column first second name type hlabel hname htype =>
      exact ⟨.column, name, type, [], (opens_iff _ _ _ _ _).2 ⟨first, second, rfl, by simp [hlabel], hname, htype⟩,
        none, .none, rfl⟩
    | aliased first second third name aliasName type hlabel hname htype has htext hne =>
      exact ⟨.column, name, type, [third],
        (opens_iff _ _ _ _ _).2 ⟨first, second, rfl, by simp [hlabel], hname, htype⟩,
        some aliasName, .some ((hasLabel_iff _ _).2 has) ((literalText?_eq_some_iff _ _).2 htext) hne, rfl⟩

/-- A hole stands for something exactly if no check fails. -/
theorem exists_classified_iff (hole : Hole) : (∃ classified, classify hole = .ok classified) ↔
    ∀ check error, ¬ Fails hole.range hole.arguments check error := by
  have hall : ∀ check : Check, check ∈ Check.all := by rintro ⟨⟩ <;> decide
  rw [← error?_eq_none_iff, Option.eq_none_iff_forall_ne_some]
  simp only [ne_eq, error?_eq_some_iff, classify_eq_error_iff, ← not_exists, not_iff_not]
  rw [exists_firstFault_iff]
  constructor
  · rintro ⟨_, check, _, error, -, hfails⟩
    exact ⟨check, error, hfails⟩
  · rintro ⟨check, error, hfails⟩
    obtain ⟨before, after, hsplit⟩ := List.append_of_mem (hall check)
    exact ⟨before, check, after, error, hsplit, hfails⟩

/-! ## Kinds -/

/-- The kind that an error names. -/
def StatementError.kind? : StatementError → Option HoleKind
  | .unprocessableHole _ kind _ => some kind
  | .malformedTemplate ⟨.unreadableName kind _, _⟩ => some kind
  | .invalidFieldName _ kind _ => some kind
  | .duplicateField _ kind _ => some kind
  | _ => none

def Classified.kind : Classified → HoleKind
  | .column _ => .column
  | .bind _ => .bind

theorem kind_of_fails {range : ByteRange} {first second : Argument} {later : List Argument} {check : Check}
    {error : StatementError} (h : Fails range (first :: second :: later) check error) {kind : HoleKind}
    (hkind : error.kind? = some kind) : kind = kindOf first := by
  cases h with
  | arguments => exact absurd hkind (by simp [malformed, StatementError.kind?])
  | type => exact (Option.some.inj hkind).symm
  | name => exact (Option.some.inj hkind).symm
  | afterType _ _ _ _ _ _ _ _ hfails => cases hfails <;> exact absurd hkind (by simp [malformed, StatementError.kind?])

theorem kind_of_standsFor {range : ByteRange} {first second : Argument} {later : List Argument} {classified : Classified}
    (h : StandsFor range (first :: second :: later) classified) : classified.kind = kindOf first := by
  cases h with
  | bind _ _ _ _ _ hlabel => exact (if_pos hlabel).symm
  | column _ _ _ _ hlabel => exact (if_neg hlabel).symm
  | aliased _ _ _ _ _ _ hlabel => exact (if_neg hlabel).symm

/-- What follows the type of a parameter does not matter. -/
theorem classify_bind (range : ByteRange) (first second : Argument) (later rest : List Argument)
    (h : first.label = some "bind") :
    classify ⟨first :: second :: rest, range⟩ = classify ⟨first :: second :: later, range⟩ := by
  unfold classify
  simp only [if_pos ((hasLabel_iff first "bind").2 h)]

/-- A hole stands for what its arguments say, or is refused with the error of the first check that fails; both name the kind
that the label of the first argument says, and of a parameter only the first two arguments count. -/
theorem classify_reports_first (hole : Hole) :
    (∀ error, classify hole = .error error ↔ FirstFault (fun _ => Fails hole.range hole.arguments) Check.all error) ∧
    (∀ classified, classify hole = .ok classified ↔ StandsFor hole.range hole.arguments classified) ∧
    ((∃ classified, classify hole = .ok classified) ↔ ∀ check error, ¬ Fails hole.range hole.arguments check error) ∧
    ∀ first second later, hole.arguments = first :: second :: later →
      (∀ error kind, classify hole = .error error → error.kind? = some kind → kind = kindOf first) ∧
      (∀ classified, classify hole = .ok classified → classified.kind = kindOf first) ∧
      (first.label = some "bind" → ∀ rest, classify ⟨first :: second :: rest, hole.range⟩ = classify hole) := by
  refine ⟨classify_eq_error_iff hole, classify_eq_ok_iff_standsFor hole, exists_classified_iff hole, ?_⟩
  obtain ⟨arguments, range⟩ := hole
  rintro first second later rfl
  refine ⟨?_, ?_, fun hlabel rest => classify_bind range first second later rest hlabel⟩
  · intro error kind herror hkind
    obtain ⟨_, check, _, -, hfails, -⟩ := (classify_eq_error_iff _ error).1 herror
    exact kind_of_fails hfails hkind
  · intro classified hclassified
    exact kind_of_standsFor ((classify_eq_ok_iff_standsFor _ classified).1 hclassified)

/-- `{not a name, Widget}`, where neither the name nor the type is right: the type is reported. -/
def unreadableHole : Hole :=
  ⟨[⟨none, "not a name", ⟨1, 11⟩⟩, ⟨none, "Widget", ⟨13, 19⟩⟩], ⟨0, 20⟩⟩

/-- `{bind: age, i64, as: "}`, where the third argument is not even a literal. -/
def loudBind : Hole :=
  ⟨[⟨some "bind", "age", ⟨1, 10⟩⟩, ⟨none, "i64", ⟨12, 15⟩⟩, ⟨some "as", "\"", ⟨17, 22⟩⟩], ⟨0, 23⟩⟩

theorem classify_reports_first_masked :
    FirstFault (fun _ => Fails unreadableHole.range unreadableHole.arguments) Check.all
      (.unprocessableHole "<invalid>" .column ⟨0, 20⟩) ∧
    StandsFor loudBind.range loudBind.arguments (.bind ⟨"age", ⟨"i64", .int64, false⟩, ⟨0, 23⟩⟩) ∧
    classify ⟨loudBind.arguments.take 2, loudBind.range⟩ = classify loudBind := by
  obtain ⟨herror, -⟩ := classify_reports_first unreadableHole
  obtain ⟨-, hok, -, hkind⟩ := classify_reports_first loudBind
  exact ⟨(herror _).1 (by decide +kernel), (hok _).1 (by decide +kernel), (hkind _ _ _ rfl).2.2 rfl []⟩

end TypedStatement
