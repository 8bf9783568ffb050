import TypedStatement.Proofs.Expansion.FirstProblem
import TypedStatement.Proofs.Result

/-!
# Diagnostics of many expansions

Expansions that are made one after the other put their diagnostics into one list.  A call adds the diagnostic of its own
expansion and answers its own item, or it adds nothing and answers the expansion (`reports_expandInto`); what a whole run
collects and answers follows from that call by call (`expandAll_reports`).
-/

namespace TypedStatement
set_option autoImplicit false

open Source (Item Token)

/-- An item that is to be expanded, with its template. -/
structure ExpandCall where
  item : Item
  template : String
  options : ExpandOptions

namespace ExpandCall

/-- The expansion by itself. -/
def alone (call : ExpandCall) : Except Diagnostic (List Token) :=
  expand call.item call.template call.options

def diagnostic? (call : ExpandCall) : Option Diagnostic :=
  error? call.alone

/-- What a call answers, and what is collected after it. -/
structure Reports (call : ExpandCall) (before : List Diagnostic) (tokens : List Token) (after : List Diagnostic) :
    Prop where
  expanded : ∀ expansion, call.alone = .ok expansion → tokens = expansion ∧ after = before
  rejected : ∀ diagnostic, call.alone = .error diagnostic →
    tokens = call.item.tokens ∧ after = before ++ [diagnostic]

end ExpandCall

/-- The calls one after the other: their answers, and what is collected at the end. -/
def expandAll (collected : List Diagnostic) : List ExpandCall → List (List Token) × List Diagnostic
  | [] => ([], collected)
  | call :: rest =>
    let (tokens, next) := expandInto collected call.item call.template call.options
    let (later, final) := expandAll next rest
    (tokens :: later, final)

/-! ## One call -/

section
variable (call : ExpandCall) (collected : List Diagnostic)

theorem expandInto_collects :
    (expandInto collected call.item call.template call.options).2 = collected ++ call.diagnostic?.toList := by
  unfold expandInto ExpandCall.diagnostic? ExpandCall.alone
  cases expand call.item call.template call.options with
  | ok tokens => exact (List.append_nil collected).symm
  | error diagnostic => rfl

theorem expandInto_answers :
    (expandInto collected call.item call.template call.options).1 =
      (expandInto [] call.item call.template call.options).1 := by
  unfold expandInto
  cases expand call.item call.template call.options with
  | ok tokens => rfl
  | error diagnostic => rfl

theorem reports_expandInto :
    call.Reports collected (expandInto collected call.item call.template call.options).1
      (expandInto collected call.item call.template call.options).2 := by
  constructor
  · intro expansion hexpand
    rw [ExpandCall.alone] at hexpand
    rw [expandInto, hexpand]
    exact ⟨rfl, rfl⟩
  · intro diagnostic hexpand
    rw [ExpandCall.alone] at hexpand
    rw [expandInto, hexpand]
    exact ⟨rfl, rfl⟩

end

/-- A call is rejected with the first problem that its item and template have at any stage. -/
theorem diagnostic?_eq_some_iff (call : ExpandCall) (diagnostic : Diagnostic) :
    call.diagnostic? = some diagnostic ↔
      ∃ error, FirstFault (fun _ => HasProblem call.item call.template) Stage.all error ∧
        diagnostic = error.diagnostic := by
  rw [ExpandCall.diagnostic?, error?_eq_some_iff, ExpandCall.alone, expand_eq_error_iff]
  simp only [expandItem_eq_error_iff]

/-! ## A run of calls -/

theorem expandAll_cons (collected : List Diagnostic) (call : ExpandCall) (rest : List ExpandCall) :
    expandAll collected (call :: rest) =
      ((expandInto collected call.item call.template call.options).1 ::
          (expandAll (expandInto collected call.item call.template call.options).2 rest).1,
        (expandAll (expandInto collected call.item call.template call.options).2 rest).2) := rfl

theorem expandAll_append (collected : List Diagnostic) (front back : List ExpandCall) :
    expandAll collected (front ++ back) =
      ((expandAll collected front).1 ++ (expandAll (expandAll collected front).2 back).1,
        (expandAll (expandAll collected front).2 back).2) := by
  induction front generalizing collected with
  | nil => rfl
  | cons call front ih =>
    rw [List.cons_append, expandAll_cons, expandAll_cons, ih]
    rfl

theorem expandAll_collected (collected : List Diagnostic) (calls : List ExpandCall) :
    (expandAll collected calls).2 = collected ++ calls.filterMap ExpandCall.diagnostic? := by
  induction calls generalizing collected with
  | nil => exact (List.append_nil collected).symm
  | cons call calls ih =>
    have hfirst := expandInto_collects call collected
    rw [expandAll_cons, ih, hfirst, List.append_assoc, List.filterMap_cons]
    cases call.diagnostic? with
    | none => rfl
    | some diagnostic => rfl

/-- The answers are those of the calls made alone. -/
theorem expandAll_answers (collected : List Diagnostic) (calls : List ExpandCall) :
    (expandAll collected calls).1 = calls.flatMap fun call => (expandAll [] [call]).1 := by
  induction calls generalizing collected with
  | nil => rfl
  | cons call calls ih =>
    have hfirst := expandInto_answers call collected
    rw [expandAll_cons, List.flatMap_cons, ih, hfirst]
    rfl

theorem length_expandAll (collected : List Diagnostic) (calls : List ExpandCall) :
    (expandAll collected calls).1.length = calls.length := by
  induction calls generalizing collected with
  | nil => rfl
  | cons call calls ih => rw [expandAll_cons, List.length_cons, ih, List.length_cons]

/-- The call after some others does what it does to what those have collected. -/
theorem reports_expandAll (collected : List Diagnostic) (front back : List ExpandCall) (call : ExpandCall) :
    ∃ tokens, (expandAll collected (front ++ call :: back)).1[front.length]? = some tokens ∧
      call.Reports (expandAll collected front).2 tokens (expandAll collected (front ++ [call])).2 := by
  have hreports := reports_expandInto call (expandAll collected front).2
  have hlength := length_expandAll collected front
  have hplace : (expandAll collected (front ++ call :: back)).1[front.length]? =
      some (expandInto (expandAll collected front).2 call.item call.template call.options).1 := by
    rw [expandAll_append, List.getElem?_append_right (Nat.le_of_eq hlength), hlength, Nat.sub_self, expandAll_cons]
    rfl
  refine ⟨_, hplace, ?_⟩
  rw [expandAll_append, expandAll_cons]
  exact hreports

/-- A run of calls adds to what was collected before the diagnostics of the calls that are rejected by themselves, in order
and each once.  Every call answers its own expansion and adds nothing, or adds its own diagnostic and answers its item as it
is, and its answer is the same without the other calls and on an empty list.  A call is rejected exactly if its item and
template have a problem at some stage. -/
theorem expandAll_reports (collected : List Diagnostic) (calls : List ExpandCall) :
    (expandAll collected calls).2 = collected ++ calls.filterMap ExpandCall.diagnostic? ∧
    (∀ front call back, calls = front ++ call :: back →
      ∃ tokens, (expandAll collected calls).1[front.length]? = some tokens ∧
        call.Reports (expandAll collected front).2 tokens (expandAll collected (front ++ [call])).2) ∧
    (expandAll collected calls).1 = (calls.flatMap fun call => (expandAll [] [call]).1) ∧
    ∀ call ∈ calls, ∀ diagnostic, call.diagnostic? = some diagnostic ↔
      ∃ error, FirstFault (fun _ => HasProblem call.item call.template) Stage.all error ∧
        diagnostic = error.diagnostic := by
  refine ⟨expandAll_collected collected calls, ?_, expandAll_answers collected calls, ?_⟩
  · rintro front call back rfl
    exact reports_expandAll collected front back call
  · intro call _ diagnostic
    exact diagnostic?_eq_some_iff call diagnostic

/-- A struct without fields, an enumeration, a struct that has the field of a parameter, and a template that breaks off. -/
def mixedCalls : List ExpandCall :=
  [⟨.struct ⟨[], .inherited, .plain "Users", [], [], .unit⟩, "SELECT {id, i64}", ⟨usualLibrary, none⟩⟩,
   ⟨enumeration, "SELECT {id, i64}", ⟨usualLibrary, none⟩⟩,
   ⟨.struct identified, "WHERE id = {bind: id, i64}", ⟨usualLibrary, some (.plain "Row")⟩⟩,
   ⟨.struct identified, "SELECT \x7bid", ⟨usualLibrary, none⟩⟩]

def staleDiagnostic : Diagnostic := (StatementError.unsupportedDeclaration .tuple).diagnostic

/-- The first call is expanded, and each of the others is rejected at another stage. -/
theorem expandAll_reports_mixed :
    (expandAll [staleDiagnostic] mixedCalls).2 =
      [staleDiagnostic, (StatementError.invalidDeclaration (some "enum")).diagnostic,
        (StatementError.duplicateField "id" .bind (some ⟨11, 26⟩)).diagnostic,
        (StatementError.malformedTemplate ⟨.unterminatedHole, ⟨7, 10⟩⟩).diagnostic] ∧
    (expandAll [staleDiagnostic] mixedCalls).1[1]? = some enumeration.tokens ∧
    (expandAll [staleDiagnostic] mixedCalls).1[2]? = some identified.tokens := by
  obtain ⟨hcollected, hcalls, -, -⟩ := expandAll_reports [staleDiagnostic] mixedCalls
  have hread : compile "SELECT {id, i64}" = .ok ⟨"SELECT id", [⟨"id", ⟨"i64", .int64, false⟩, none, ⟨7, 16⟩⟩], []⟩ :=
    (compile_ofList _).trans (by decide +kernel)
  have hbound : compile "WHERE id = {bind: id, i64}" =
      .ok ⟨"WHERE id = $1", [], [⟨"id", ⟨"i64", .int64, false⟩, ⟨11, 26⟩⟩]⟩ := (compile_ofList _).trans (by decide +kernel)
  have hopen : compile "SELECT \x7bid" = .error (.malformedTemplate ⟨.unterminatedHole, ⟨7, 10⟩⟩) :=
    (compile_ofList _).trans (by decide +kernel)
  have hexpanded : mixedCalls[0].diagnostic? = none := congrArg error? ((expand_of_compile rfl hread _).trans rfl)
  have henumeration : mixedCalls[1].alone = .error (StatementError.invalidDeclaration (some "enum")).diagnostic := rfl
  have htaken : mixedCalls[2].alone = .error (StatementError.duplicateField "id" .bind (some ⟨11, 26⟩)).diagnostic :=
    (expand_of_compile rfl hbound _).trans rfl
  have hmalformed : mixedCalls[3].alone = .error (StatementError.malformedTemplate ⟨.unterminatedHole, ⟨7, 10⟩⟩).diagnostic :=
    expand_of_compile_error rfl hopen _
  have hdiagnostics : mixedCalls.filterMap ExpandCall.diagnostic? =
      [(StatementError.invalidDeclaration (some "enum")).diagnostic,
        (StatementError.duplicateField "id" .bind (some ⟨11, 26⟩)).diagnostic,
        (StatementError.malformedTemplate ⟨.unterminatedHole, ⟨7, 10⟩⟩).diagnostic] := by
    have hreported {call : ExpandCall} {diagnostic : Diagnostic} (h : call.alone = .error diagnostic) :
        call.diagnostic? = some diagnostic := congrArg error? h
    have hlast : (mixedCalls.drop 3).filterMap ExpandCall.diagnostic? = [_] :=
      List.filterMap_cons_some (hreported hmalformed)
    have hlater : (mixedCalls.drop 2).filterMap ExpandCall.diagnostic? = _ :: (mixedCalls.drop 3).filterMap _ :=
      List.filterMap_cons_some (hreported htaken)
    have hrejected : (mixedCalls.drop 1).filterMap ExpandCall.diagnostic? = _ :: (mixedCalls.drop 2).filterMap _ :=
      List.filterMap_cons_some (hreported henumeration)
    have hfirst : mixedCalls.filterMap ExpandCall.diagnostic? = (mixedCalls.drop 1).filterMap _ :=
      List.filterMap_cons_none hexpanded
    rw [hfirst, hrejected, hlater, hlast]
  obtain ⟨second, hsecond, hreported⟩ := hcalls [mixedCalls[0]] mixedCalls[1] (mixedCalls.drop 2) rfl
  obtain ⟨third, hthird, hclash⟩ := hcalls (mixedCalls.take 2) mixedCalls[2] (mixedCalls.drop 3) rfl
  refine ⟨by rw [hcollected, hdiagnostics]; rfl, ?_, ?_⟩
  · rw [(hreported.rejected _ henumeration).1] at hsecond
    exact hsecond
  · rw [(hclash.rejected _ htaken).1] at hthird
    exact hthird

end TypedStatement
