import Mathlib.Data.List.Forall2
import TypedStatement.Attribute.Arguments
import TypedStatement.Proofs.Result

/-!
# Settings of the attribute

An argument after the template offends if it is a literal, has an unknown name or one that was given before, or has a
content that its name cannot have.  Taking one argument after some others reports a problem exactly if it offends
(`take_after`), and a run reports those that offend, in order and each once (`takeAll_after`).
-/

namespace TypedStatement.Attribute
set_option autoImplicit false

open Source (FragmentError Ident Path)

/-! ## What an argument says -/

section
variable {α : Type} (parse : String → Except FragmentError α) (ofPath? : Path → Option α)

/-- The content of a setting says a result, as the text of a string literal or as a path. -/
inductive Says : Content → α → Prop
  | text {value : Source.Reading} {literal text : String} {result : α} : value.shape = .literal literal →
    Source.StringLiteral.value? literal = some text → parse text = .ok result → Says (.setting value) result
  | path {value : Source.Reading} {path : Path} {result : α} : value.shape = .path path →
    ofPath? path = some result → Says (.setting value) result

theorem settingOf_eq_ok_iff (content : Content) (result : α) :
    settingOf parse ofPath? content = .ok result ↔ Says parse ofPath? content result := by
  constructor
  · intro h
    cases content with
    | word => simp [settingOf] at h
    | list tokens =>
      rw [settingOf] at h
      split at h <;> cases h
    | setting value =>
      simp only [settingOf] at h
      cases hshape : value.shape with
      | literal literal =>
        simp only [hshape] at h
        cases htext : Source.StringLiteral.value? literal with
        | none => simp [htext] at h
        | some text =>
          cases hparse : parse text with
          | error error => simp [htext, hparse] at h
          | ok read =>
            obtain rfl : read = result := by simpa [htext, hparse] using h
            exact .text hshape htext hparse
      | path path =>
        cases hpath : ofPath? path with
        | none => simp [hshape, hpath] at h
        | some read =>
          obtain rfl : read = result := by simpa [hshape, hpath] using h
          exact .path hshape hpath
      | macroCall _ => simp [hshape] at h
      | form _ => simp [hshape] at h
  · intro h
    cases h with
    | text hshape htext hparse => simp only [settingOf, hshape, htext, hparse]
    | path hshape hpath => simp only [settingOf, hshape, hpath]

def IsReadable (content : Content) : Prop :=
  ∃ result, Says parse ofPath? content result

instance (content : Content) : Decidable (IsReadable parse ofPath? content) :=
  decidable_of_iff ((settingOf parse ofPath? content).toOption ≠ none) <| by
    simp only [IsReadable, ← settingOf_eq_ok_iff, ← toOption_eq_some_iff, Option.ne_none_iff_exists']

end

/-- A setting with this name can have this content. -/
def IsAccepted (name : String) (content : Content) : Prop :=
  name = "crate" ∧ IsReadable Path.parse some content ∨ name = "row" ∧ IsReadable Ident.parse Path.ident? content

instance (name : String) (content : Content) : Decidable (IsAccepted name content) :=
  inferInstanceAs (Decidable (_ ∨ _))

theorem mem_settingNames_of_isAccepted {name : String} {content : Content} (h : IsAccepted name content) :
    name ∈ settingNames := by
  obtain ⟨rfl, -⟩ | ⟨rfl, -⟩ := h
  · exact List.mem_cons_self
  · exact List.mem_cons_of_mem _ List.mem_cons_self

def Argument.name? : Argument → Option String
  | .named name _ => some name
  | .literal _ => none

def IsGiven (name : String) (arguments : List Argument) : Prop :=
  some name ∈ arguments.map Argument.name?

instance (name : String) (arguments : List Argument) : Decidable (IsGiven name arguments) :=
  inferInstanceAs (Decidable (_ ∈ _))

/-- An argument is wrong after some others. -/
inductive Offends (before : List Argument) : Argument → Prop
  | literal (text : String) : Offends before (.literal text)
  | unknown {name : String} (content : Content) : name ∉ settingNames → Offends before (.named name content)
  | repeated {name : String} (content : Content) : IsGiven name before → Offends before (.named name content)
  | unacceptable {name : String} {content : Content} : ¬ IsAccepted name content → Offends before (.named name content)

theorem not_offends_named_iff (before : List Argument) (name : String) (content : Content) :
    ¬ Offends before (.named name content) ↔ ¬ IsGiven name before ∧ IsAccepted name content := by
  constructor
  · intro h
    refine ⟨fun hgiven => h (.repeated content hgiven), ?_⟩
    by_contra hrefused
    exact h (.unacceptable hrefused)
  · rintro ⟨hfirst, haccepted⟩ h
    cases h with
    | unknown _ hname => exact hname (mem_settingNames_of_isAccepted haccepted)
    | repeated _ hgiven => exact hfirst hgiven
    | unacceptable hrefused => exact hrefused haccepted

/-- How an argument that is wrong is reported. -/
inductive Reports (before : List Argument) : Argument → Problem → Prop
  | literal (text : String) : Reports before (.literal text) ⟨.format "literal", none⟩
  | unknown {name : String} (content : Content) : name ∉ settingNames →
    Reports before (.named name content) ⟨.unknown name, none⟩
  | repeated {name : String} (content : Content) : name ∈ settingNames → IsGiven name before →
    Reports before (.named name content) ⟨.repeated name, none⟩
  | unacceptable {name : String} {content : Content} (fault : Fault) : name ∈ settingNames → ¬ IsGiven name before →
    ¬ IsAccepted name content → Reports before (.named name content) ⟨fault, some name⟩

theorem offends_of_reports {before : List Argument} {argument : Argument} {problem : Problem}
    (h : Reports before argument problem) : Offends before argument := by
  cases h with
  | literal text => exact .literal text
  | unknown content hname => exact .unknown content hname
  | repeated content _ hgiven => exact .repeated content hgiven
  | unacceptable _ _ _ hrefused => exact .unacceptable hrefused

/-! ## The first setting of a name -/

def Argument.contentOf? (name : String) : Argument → Option Content
  | .named other content => if other = name then some content else none
  | .literal _ => none

def firstOf? (name : String) (arguments : List Argument) : Option Content :=
  arguments.findSome? (Argument.contentOf? name)

theorem contentOf?_eq_some_iff (name : String) (argument : Argument) (content : Content) :
    argument.contentOf? name = some content ↔ argument = .named name content := by
  cases argument with
  | literal text => simp [Argument.contentOf?]
  | named other given => simp [Argument.contentOf?]

theorem mem_of_firstOf? {name : String} {arguments : List Argument} {content : Content}
    (h : firstOf? name arguments = some content) : .named name content ∈ arguments := by
  obtain ⟨argument, hmem, hcontent⟩ := List.exists_of_findSome?_eq_some h
  obtain rfl := (contentOf?_eq_some_iff name argument content).1 hcontent
  exact hmem

theorem isGiven_of_mem {name : String} {content : Content} {arguments : List Argument}
    (h : .named name content ∈ arguments) : IsGiven name arguments :=
  List.mem_map.2 ⟨_, h, rfl⟩

theorem firstOf?_eq_none_iff (name : String) (arguments : List Argument) :
    firstOf? name arguments = none ↔ ¬ IsGiven name arguments := by
  rw [firstOf?, List.findSome?_eq_none_iff, IsGiven, List.mem_map]
  constructor
  · rintro h ⟨argument, hmem, hname⟩
    have hnone := h argument hmem
    cases argument with
    | literal text => cases hname
    | named other content => simp_all [Argument.contentOf?, Argument.name?]
  · intro h argument hmem
    by_contra hsome
    obtain ⟨content, hcontent⟩ := Option.ne_none_iff_exists'.1 hsome
    obtain rfl := (contentOf?_eq_some_iff name argument content).1 hcontent
    exact h ⟨_, hmem, rfl⟩

instance (before : List Argument) : DecidablePred (Offends before)
  | .literal text => .isTrue (.literal text)
  | .named name content => decidable_of_iff (IsGiven name before ∨ ¬ IsAccepted name content) <| by
    rw [← not_iff_not, not_offends_named_iff, not_or, not_not]

/-! ## The settings after some arguments -/

section
variable {α : Type} (read : Content → Except Fault α) (name : String) (before : List Argument)

/-- What is known of a setting: it is given with its first content, if that can be read. -/
def settingAfter (arguments : List Argument) : Setting α :=
  match firstOf? name arguments with
  | some content => ⟨true, (read content).toOption⟩
  | none => .absent

theorem firstOf?_append (front back : List Argument) :
    firstOf? name (front ++ back) = (firstOf? name front).or (firstOf? name back) :=
  List.findSome?_append

theorem settingAfter_append_other {argument : Argument} (h : argument.contentOf? name = none) :
    settingAfter read name (before ++ [argument]) = settingAfter read name before := by
  have hnone : firstOf? name [argument] = none := by simp [firstOf?, h]
  rw [settingAfter, firstOf?_append, hnone, Option.or_none, settingAfter]

/-- Giving a setting keeps its first content, and it is wrong if there was one or if this one cannot be read. -/
theorem give_settingAfter (content : Content) :
    ∃ problems, (settingAfter read name before).give name (read content) =
        (settingAfter read name (before ++ [.named name content]), problems) ∧
      (problems = [] ∧ ¬ IsGiven name before ∧ (∃ result, read content = .ok result) ∨
        problems = [⟨.repeated name, none⟩] ∧ IsGiven name before ∨
        ∃ fault, problems = [⟨fault, some name⟩] ∧ ¬ IsGiven name before ∧ read content = .error fault) := by
  have hlast : firstOf? name [.named name content] = some content := by simp [firstOf?, Argument.contentOf?]
  cases hfirst : firstOf? name before with
  | some first =>
    refine ⟨[⟨.repeated name, none⟩], ?_, .inr (.inl ⟨rfl, isGiven_of_mem (mem_of_firstOf? hfirst)⟩)⟩
    simp [settingAfter, firstOf?_append, hfirst, Setting.give]
  | none =>
    have hnone := (firstOf?_eq_none_iff name before).1 hfirst
    cases hread : read content with
    | ok result =>
      refine ⟨[], ?_, .inl ⟨rfl, hnone, result, rfl⟩⟩
      simp [settingAfter, firstOf?_append, hfirst, hlast, Setting.give, Setting.absent, hread, Except.toOption]
    | error fault =>
      refine ⟨[⟨fault, some name⟩], ?_, .inr (.inr ⟨fault, rfl, hnone, rfl⟩)⟩
      simp [settingAfter, firstOf?_append, hfirst, hlast, Setting.give, Setting.absent, hread, Except.toOption]

end

def Settings.after (arguments : List Argument) : Settings :=
  ⟨settingAfter (settingOf Path.parse some) "crate" arguments,
    settingAfter (settingOf Ident.parse Path.ident?) "row" arguments⟩

inductive Answers (before : List Argument) (argument : Argument) : List Problem → Prop
  | accepted : ¬ Offends before argument → Answers before argument []
  | reported {problem : Problem} : Reports before argument problem → Answers before argument [problem]

/-- Giving a known setting answers as the argument is, if the setting has the contents that `read` can read. -/
theorem exists_give_answers {α : Type} (read : Content → Except Fault α) {name : String} (hname : name ∈ settingNames)
    (before : List Argument) (content : Content)
    (haccepted : IsAccepted name content ↔ ∃ result, read content = .ok result) :
    ∃ problems, (settingAfter read name before).give name (read content) =
        (settingAfter read name (before ++ [.named name content]), problems) ∧
      Answers before (.named name content) problems := by
  obtain ⟨problems, hgive, hproblems⟩ := give_settingAfter read name before content
  refine ⟨problems, hgive, ?_⟩
  obtain ⟨rfl, hfirst, hread⟩ | ⟨rfl, hgiven⟩ | ⟨fault, rfl, hfirst, hread⟩ := hproblems
  · exact .accepted ((not_offends_named_iff _ _ _).2 ⟨hfirst, haccepted.2 hread⟩)
  · exact .reported (.repeated content hname hgiven)
  · refine .reported (.unacceptable fault hname hfirst fun h => ?_)
    obtain ⟨result, hresult⟩ := haccepted.1 h
    rw [hread] at hresult
    cases hresult

theorem isAccepted_library_iff (content : Content) :
    IsAccepted "crate" content ↔ ∃ path, settingOf Path.parse some content = .ok path := by
  simp [IsAccepted, IsReadable, settingOf_eq_ok_iff]

theorem isAccepted_row_iff (content : Content) :
    IsAccepted "row" content ↔ ∃ row, settingOf Ident.parse Path.ident? content = .ok row := by
  simp [IsAccepted, IsReadable, settingOf_eq_ok_iff]

theorem take_after (before : List Argument) (argument : Argument) :
    ∃ problems, (Settings.after before).take argument = (Settings.after (before ++ [argument]), problems) ∧
      Answers before argument problems := by
  cases argument with
  | literal text =>
    refine ⟨[⟨.format "literal", none⟩], ?_, .reported (.literal text)⟩
    have hother : ∀ name, (Argument.literal text).contentOf? name = none := fun name => rfl
    simp [Settings.after, Settings.take, settingAfter_append_other, hother]
  | named name content =>
    -- The content matters only to the setting that has the name; the other one stays as it is.
    by_cases hlibrary : name = "crate"
    · subst hlibrary
      obtain ⟨problems, hgive, hproblems⟩ := exists_give_answers (settingOf Path.parse some) (by decide) before content
        (isAccepted_library_iff content)
      refine ⟨problems, ?_, hproblems⟩
      simp [Settings.after, Settings.take, hgive, settingAfter_append_other, Argument.contentOf?]
    by_cases hrow : name = "row"
    · subst hrow
      obtain ⟨problems, hgive, hproblems⟩ := exists_give_answers (settingOf Ident.parse Path.ident?) (by decide) before
        content (isAccepted_row_iff content)
      refine ⟨problems, ?_, hproblems⟩
      simp [Settings.after, Settings.take, hgive, settingAfter_append_other, Argument.contentOf?]
    refine ⟨[⟨.unknown name, none⟩], ?_, .reported (.unknown content (by simp [settingNames, hlibrary, hrow]))⟩
    simp [Settings.after, Settings.take, hlibrary, hrow, settingAfter_append_other, Argument.contentOf?]

/-! ## A run of arguments -/

/-- Each of the arguments, with those that stand before it. -/
def inView (before : List Argument) : List Argument → List (List Argument × Argument)
  | [] => []
  | argument :: rest => (before, argument) :: inView (before ++ [argument]) rest

/-- The arguments that offend, each after those before it. -/
def offenders (arguments : List Argument) : List (List Argument × Argument) :=
  (inView [] arguments).filter fun seen => Offends seen.1 seen.2

theorem takeAll_after (before rest : List Argument) :
    ∃ problems, (Settings.after before).takeAll rest = (Settings.after (before ++ rest), problems) ∧
      List.Forall₂ (fun seen problem => Reports seen.1 seen.2 problem)
        ((inView before rest).filter fun seen => Offends seen.1 seen.2) problems := by
  -- The state is that after the arguments taken so far, so each step is that of `take_after`.
  induction rest generalizing before with
  | nil => exact ⟨[], by rw [List.append_nil]; rfl, .nil⟩
  | cons argument rest ih =>
    obtain ⟨first, htake, hfirst⟩ := take_after before argument
    obtain ⟨later, hlater, hreports⟩ := ih (before ++ [argument])
    refine ⟨first ++ later, ?_, ?_⟩
    · rw [Settings.takeAll, htake]
      simp only [hlater, List.append_assoc, List.singleton_append]
    · rw [inView]
      cases hfirst with
      | accepted hfine =>
        rw [List.filter_cons_of_neg (by simpa using hfine)]
        exact hreports
      | reported hreport =>
        rw [List.filter_cons_of_pos (by simpa using offends_of_reports hreport)]
        exact .cons hreport hreports

end TypedStatement.Attribute
