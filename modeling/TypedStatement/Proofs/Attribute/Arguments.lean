import TypedStatement.Attribute.Arguments
import TypedStatement.Proofs.Source.Readers

/-!
# Arguments as they are written

A template and settings that are string literals are read as what the literals say (`readArguments_written`).
-/

namespace TypedStatement.Attribute
set_option autoImplicit false

open Source (Ident Path Reading Token)
open Source.Reader
open Source.Grammar (expressionRule rules)

/-- A setting whose value is a literal. -/
structure WrittenSetting where
  name : String
  literal : String

def WrittenSetting.tokens (setting : WrittenSetting) : List Token :=
  [Token.word setting.name, Token.mark '=', .literal setting.literal]

/-- What the setting is read as. -/
def WrittenSetting.argument (setting : WrittenSetting) : Argument :=
  .named setting.name (.setting ⟨[.literal setting.literal], .literal setting.literal⟩)

/-- The tokens of settings, each after a comma. -/
def settingTokens (settings : List WrittenSetting) : List Token :=
  settings.flatMap fun setting => Token.mark ',' :: setting.tokens

/-- The arguments with a literal as the template. -/
def writtenArguments (template : String) (settings : List WrittenSetting) : List Token :=
  .literal template :: settingTokens settings

/-! ## One argument -/

/-- Nothing follows, or a comma does. -/
def EndsArgument (tokens : List Token) : Prop :=
  tokens = [] ∨ ∃ later, tokens = Token.mark ',' :: later

theorem run_expression_literal (depth : Nat) (literal : String) (rest : List Token) (h : EndsArgument rest) :
    (rules (depth + 1) (.expression true)).run (.literal literal :: rest) =
      .ok (⟨[.literal literal], .literal literal⟩, rest) := by
  obtain rfl | ⟨later, rfl⟩ := h
  · rfl
  · rfl

theorem run_argument_literal (template : String) (rest : List Token) :
    argument.run (.literal template :: rest) = .ok (.literal template, rest) := by
  have htext : String.join [Token.text [.literal template]] = template := by
    simp [String.join, Token.text, Token.writtenAll, Token.written]
  change Except.ok (Argument.literal (String.join [Token.text [.literal template]]), rest) = _
  rw [htext]

theorem run_settingValue (literal : String) (rest : List Token) (h : EndsArgument rest) :
    settingValue.run (Token.mark '=' :: .literal literal :: rest) =
      .ok (⟨[.literal literal], .literal literal⟩, rest) := by
  change (Source.Grammar.withRules fun rules => rules (.expression true)).run (.literal literal :: rest) = _
  rw [run_withRules]
  exact run_expression_literal _ literal rest h

theorem run_argument_setting (setting : WrittenSetting) (hname : setting.name ∈ settingNames) (rest : List Token)
    (h : EndsArgument rest) : argument.run (setting.tokens ++ rest) = .ok (setting.argument, rest) := by
  obtain ⟨name, literal⟩ := setting
  have hvalue := run_settingValue literal rest h
  have hargument : argument.run (WrittenSetting.tokens ⟨name, literal⟩ ++ rest) =
      (do return .named name (.setting (← settingValue)) : Source.Reader Argument).run
        (Token.mark '=' :: .literal literal :: rest) := by
    simp only [settingNames, List.mem_cons, List.not_mem_nil, or_false] at hname
    rcases hname with rfl | rfl
    · rfl
    · rfl
  rw [hargument]
  exact run_bind_of_ok hvalue

/-! ## The list of arguments -/

/-- What reads one argument with the comma after it. -/
def oneArgument : Source.Reader (Option Argument) := do
  if ← atEnd then return none
  let one ← argument
  if !(← atEnd) then
    let _ ← operator ","
  return some one

theorem run_oneArgument {tokens rest : List Token} {one : Argument} (hne : tokens ≠ [])
    (hone : argument.run tokens = .ok (one, rest)) (hrest : EndsArgument rest) :
    oneArgument.run tokens = .ok (some one, rest.drop 1) := by
  have hmore : atEnd.run tokens = .ok (false, tokens) := by
    obtain ⟨first, later, rfl⟩ := List.exists_cons_of_ne_nil hne
    rfl
  refine (run_bind_of_ok hmore).trans ((run_bind_of_ok hone).trans ?_)
  obtain rfl | ⟨later, rfl⟩ := hrest
  · rfl
  · rfl

theorem endsArgument_settingTokens (settings : List WrittenSetting) : EndsArgument (settingTokens settings) := by
  cases settings with
  | nil => exact .inl rfl
  | cons setting settings => exact .inr ⟨_, rfl⟩

theorem settingTokens_cons_drop (setting : WrittenSetting) (settings : List WrittenSetting) :
    (settingTokens (setting :: settings)).drop 1 = setting.tokens ++ settingTokens settings := rfl

theorem repeats_settings (settings : List WrittenSetting) (h : ∀ setting ∈ settings, setting.name ∈ settingNames) :
    Repeats oneArgument ((settingTokens settings).drop 1) (settings.map WrittenSetting.argument) [] := by
  induction settings with
  | nil => exact .stop rfl
  | cons setting settings ih =>
    have hends := endsArgument_settingTokens settings
    have hone := run_argument_setting setting (h setting List.mem_cons_self) _ hends
    rw [settingTokens_cons_drop]
    refine .step (run_oneArgument (by simp [WrittenSetting.tokens]) hone hends) ?_
      (ih fun other hother => h other (List.mem_cons_of_mem _ hother))
    simp only [WrittenSetting.tokens, List.length_append, List.length_drop, List.length_cons]
    omega

theorem readArguments_written (template : String) (settings : List WrittenSetting)
    (h : ∀ setting ∈ settings, setting.name ∈ settingNames) :
    readArguments (writtenArguments template settings) =
      ofArguments (.literal template :: settings.map WrittenSetting.argument) := by
  have hends := endsArgument_settingTokens settings
  have hne : writtenArguments template settings ≠ [] := by simp [writtenArguments]
  have hfirst := run_oneArgument hne (run_argument_literal template _) hends
  have hrepeats := Repeats.step hfirst (by simp only [writtenArguments, List.length_drop, List.length_cons]; omega)
    (repeats_settings settings h)
  have hall : argumentList.all (writtenArguments template settings) =
      .ok (.literal template :: settings.map WrittenSetting.argument) :=
    (all_eq_ok_iff _ _ _).2 (run_many hrepeats)
  rw [readArguments, hall]

/-! ## Settings -/

theorem settingOf_literal {α : Type} {parse : String → Except Source.FragmentError α} {ofPath? : Path → Option α}
    {literal text : String} {value : α} (htext : Source.StringLiteral.value? literal = some text)
    (hvalue : parse text = .ok value) :
    settingOf parse ofPath? (.setting ⟨[.literal literal], .literal literal⟩) = .ok value := by
  simp only [settingOf, htext, hvalue]

/-- The settings give the text of the path of the run-time crate, or nothing if the text says the usual path. -/
inductive GivesCrate (text : String) : List WrittenSetting → Prop
  | given {literal : String} : Source.StringLiteral.value? literal = some text → GivesCrate text [⟨"crate", literal⟩]
  | usual : Path.parse text = .ok usualLibrary → GivesCrate text []

/-- The settings give the text of the name of the row type, if there is one. -/
inductive GivesRow : Option String → List WrittenSetting → Prop
  | given {text literal : String} : Source.StringLiteral.value? literal = some text →
    GivesRow (some text) [⟨"row", literal⟩]
  | none : GivesRow none []

theorem take_crate {library : Path} {literal text : String} (htext : Source.StringLiteral.value? literal = some text)
    (hlibrary : Path.parse text = .ok library) (row : Setting Ident) :
    Settings.take ⟨.absent, row⟩ (WrittenSetting.argument ⟨"crate", literal⟩) = (⟨⟨true, some library⟩, row⟩, []) := by
  have hvalue : settingOf Path.parse some (.setting ⟨[.literal literal], .literal literal⟩) = .ok library :=
    settingOf_literal htext hlibrary
  simp [Settings.take, WrittenSetting.argument, hvalue, Setting.give, Setting.absent]

theorem take_row {row : Ident} {literal text : String} (htext : Source.StringLiteral.value? literal = some text)
    (hrow : Ident.parse text = .ok row) (library : Setting Path) :
    Settings.take ⟨library, .absent⟩ (WrittenSetting.argument ⟨"row", literal⟩) = (⟨library, ⟨true, some row⟩⟩, []) := by
  have hvalue : settingOf Ident.parse Path.ident? (.setting ⟨[.literal literal], .literal literal⟩) = .ok row :=
    settingOf_literal htext hrow
  simp [Settings.take, WrittenSetting.argument, hvalue, Setting.give, Setting.absent]

theorem takeAll_append (settings : Settings) (front back : List Argument) :
    settings.takeAll (front ++ back) =
      (((settings.takeAll front).1.takeAll back).1, (settings.takeAll front).2 ++ ((settings.takeAll front).1.takeAll back).2) := by
  induction front generalizing settings with
  | nil => rfl
  | cons one front ih =>
    simp only [List.cons_append, Settings.takeAll, ih, List.append_assoc]

theorem exists_takeAll_crate {text : String} {library : Path} {settings : List WrittenSetting}
    (h : GivesCrate text settings) (hlibrary : Path.parse text = .ok library) :
    ∃ given : Setting Path, given.value.getD usualLibrary = library ∧
      ∀ row, Settings.takeAll ⟨.absent, row⟩ (settings.map WrittenSetting.argument) = (⟨given, row⟩, []) := by
  cases h with
  | usual husual =>
    rw [husual] at hlibrary
    exact ⟨.absent, Except.ok.inj hlibrary, fun row => rfl⟩
  | given htext =>
    refine ⟨⟨true, some library⟩, rfl, ?_⟩
    intro row
    rw [List.map_singleton, Settings.takeAll, take_crate htext hlibrary row]
    rfl

theorem exists_takeAll_row {text : Option String} {row : Option Ident} {settings : List WrittenSetting}
    (h : GivesRow text settings) (hrow : Option.Rel (fun text row => Ident.parse text = .ok row) text row) :
    ∃ given : Setting Ident, given.value = row ∧
      ∀ library, Settings.takeAll ⟨library, .absent⟩ (settings.map WrittenSetting.argument) = (⟨library, given⟩, []) := by
  cases h with
  | none =>
    cases hrow
    exact ⟨.absent, rfl, fun library => rfl⟩
  | given htext =>
    cases hrow with
    | @some _ row hrow =>
      refine ⟨⟨true, some row⟩, rfl, ?_⟩
      intro library
      rw [List.map_singleton, Settings.takeAll, take_row htext hrow library]
      rfl

/-- Written in either order, settings are read as the path and the name that their texts say. -/
theorem readArguments_eq_ok {literal template cratePath : String} {library : Path} {rowName : Option String}
    {row : Option Ident} {first second settings : List WrittenSetting}
    (htemplate : Source.StringLiteral.value? literal = some template) (hfirst : GivesCrate cratePath first)
    (hlibrary : Path.parse cratePath = .ok library) (hsecond : GivesRow rowName second)
    (hrow : Option.Rel (fun text row => Ident.parse text = .ok row) rowName row)
    (hsettings : settings = first ++ second ∨ settings = second ++ first) :
    readArguments (writtenArguments literal settings) = .ok ⟨template, library, row⟩ := by
  have hnames : ∀ setting ∈ settings, setting.name ∈ settingNames := by
    rcases hsettings with rfl | rfl <;> cases hfirst <;> cases hsecond <;> simp [settingNames]
  obtain ⟨path, rfl, hpath⟩ := exists_takeAll_crate hfirst hlibrary
  obtain ⟨name, rfl, hname⟩ := exists_takeAll_row hsecond hrow
  have htaken : Settings.takeAll ⟨.absent, .absent⟩ (settings.map WrittenSetting.argument) = (⟨path, name⟩, []) := by
    rcases hsettings with rfl | rfl
    · rw [List.map_append, takeAll_append, hpath, hname, List.nil_append]
    · rw [List.map_append, takeAll_append, hname, hpath, List.nil_append]
  rw [readArguments_written literal settings hnames]
  simp only [ofArguments, htemplate, htaken]

end TypedStatement.Attribute
