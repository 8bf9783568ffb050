import Mathlib.Data.List.Nodup
import Mathlib.Data.List.Perm.Basic
import TypedStatement.Proofs.Attribute.Arguments
import TypedStatement.Proofs.Attribute.Settings

/-!
# Arguments that are accepted

The arguments after the template are accepted, in any order, if each is a setting with a content that its name can have
and none is given twice; else there is one problem for each argument that offends (`readArguments_accepts_settings`).
-/

namespace TypedStatement.Attribute
set_option autoImplicit false

open Source (FragmentError Ident Path Token)

/-! ## Settings that are accepted -/

def Argument.IsSetting (argument : Argument) : Prop :=
  ∃ name content, argument = .named name content ∧ IsAccepted name content

/-- Each argument is a setting that is accepted, and no name is given twice. -/
structure AreAccepted (arguments : List Argument) : Prop where
  settings : ∀ argument ∈ arguments, argument.IsSetting
  once : (arguments.map Argument.name?).Nodup

theorem not_offends_iff (before : List Argument) (argument : Argument) :
    ¬ Offends before argument ↔ argument.IsSetting ∧ argument.name? ∉ before.map Argument.name? := by
  cases argument with
  | literal text => simp [Argument.IsSetting, Offends.literal]
  | named name content => simp [not_offends_named_iff, Argument.IsSetting, IsGiven, Argument.name?, and_comm]

theorem areAccepted_nil : AreAccepted [] :=
  ⟨List.forall_mem_nil _, List.nodup_nil⟩

theorem areAccepted_cons_iff (argument : Argument) (rest : List Argument) :
    AreAccepted (argument :: rest) ↔
      argument.IsSetting ∧ argument.name? ∉ rest.map Argument.name? ∧ AreAccepted rest := by
  constructor
  · rintro ⟨hsettings, honce⟩
    rw [List.forall_mem_cons] at hsettings
    rw [List.map_cons, List.nodup_cons] at honce
    exact ⟨hsettings.1, honce.1, hsettings.2, honce.2⟩
  · rintro ⟨hsetting, hfirst, hrest⟩
    exact ⟨List.forall_mem_cons.2 ⟨hsetting, hrest.settings⟩, List.nodup_cons.2 ⟨hfirst, hrest.once⟩⟩

theorem forall_not_offends_iff (before rest : List Argument) :
    (∀ seen ∈ inView before rest, ¬ Offends seen.1 seen.2) ↔
      AreAccepted rest ∧ ∀ argument ∈ rest, argument.name? ∉ before.map Argument.name? := by
  -- Names given once in the rest are told from those before it, since the view of a later argument has both.
  induction rest generalizing before with
  | nil => simp [inView, areAccepted_nil]
  | cons argument rest ih =>
    have hlater : (∀ one ∈ rest, one.name? ∉ (before ++ [argument]).map Argument.name?) ↔
        argument.name? ∉ rest.map Argument.name? ∧ ∀ one ∈ rest, one.name? ∉ before.map Argument.name? := by
      simp only [List.map_append, List.map_singleton, List.mem_append, List.mem_singleton, not_or, List.mem_map,
        not_exists, not_and]
      constructor
      · intro h
        exact ⟨fun one hone => (h one hone).2, fun one hone => (h one hone).1⟩
      · rintro ⟨hlast, hbefore⟩ one hone
        exact ⟨hbefore one hone, hlast one hone⟩
    rw [inView, List.forall_mem_cons, ih, not_offends_iff, hlater, areAccepted_cons_iff, List.forall_mem_cons]
    tauto

theorem offenders_eq_nil_iff (arguments : List Argument) : offenders arguments = [] ↔ AreAccepted arguments := by
  have hall := forall_not_offends_iff [] arguments
  simp only [offenders, List.filter_eq_nil_iff, decide_eq_true_eq, hall, List.map_nil, List.not_mem_nil, not_false_eq_true,
    implies_true, and_true]

theorem AreAccepted.perm {arguments others : List Argument} (h : AreAccepted arguments) (hperm : arguments.Perm others) :
    AreAccepted others :=
  ⟨fun argument hmem => h.settings argument (hperm.mem_iff.2 hmem), (hperm.map _).nodup_iff.1 h.once⟩

/-! ## What the arguments choose -/

section
variable {α : Type} {parse : String → Except FragmentError α} {ofPath? : Path → Option α} {name : String}
  {arguments others : List Argument}

/-- The value of a setting: what its content says, or none if it is not given. -/
structure IsChosen (parse : String → Except FragmentError α) (ofPath? : Path → Option α) (name : String)
    (arguments : List Argument) (value : Option α) : Prop where
  given : ∀ content, .named name content ∈ arguments → ∃ result, value = some result ∧ Says parse ofPath? content result
  absent : ¬ IsGiven name arguments → value = none

theorem IsChosen.perm {value : Option α} (h : IsChosen parse ofPath? name arguments value)
    (hperm : arguments.Perm others) : IsChosen parse ofPath? name others value where
  given content hmem := h.given content (hperm.mem_iff.2 hmem)
  absent hnone := h.absent fun hgiven => hnone ((hperm.map _).mem_iff.1 hgiven)

theorem says_unique {content : Content} {one other : α} (hone : Says parse ofPath? content one)
    (hother : Says parse ofPath? content other) : one = other := by
  rw [← settingOf_eq_ok_iff] at hone hother
  exact Except.ok.inj (hone.symm.trans hother)

theorem exists_firstOf? (h : IsGiven name arguments) : ∃ content, firstOf? name arguments = some content := by
  have hfirst : firstOf? name arguments ≠ none := fun hnone => (firstOf?_eq_none_iff name arguments).1 hnone h
  exact Option.ne_none_iff_exists'.1 hfirst

theorem IsChosen.unique {one other : Option α} (hone : IsChosen parse ofPath? name arguments one)
    (hother : IsChosen parse ofPath? name arguments other) : one = other := by
  by_cases hgiven : IsGiven name arguments
  · obtain ⟨content, hcontent⟩ := exists_firstOf? hgiven
    obtain ⟨first, rfl, hfirst⟩ := hone.given content (mem_of_firstOf? hcontent)
    obtain ⟨second, rfl, hsecond⟩ := hother.given content (mem_of_firstOf? hcontent)
    rw [says_unique hfirst hsecond]
  · rw [hone.absent hgiven, hother.absent hgiven]

theorem firstOf?_of_mem {content : Content} (honce : (arguments.map Argument.name?).Nodup)
    (hmem : .named name content ∈ arguments) : firstOf? name arguments = some content := by
  obtain ⟨first, hfirst⟩ := exists_firstOf? (isGiven_of_mem hmem)
  have hsame := List.inj_on_of_nodup_map honce (mem_of_firstOf? hfirst) hmem rfl
  rw [hfirst, (Argument.named.inj hsame).2]

/-- After arguments with readable contents and no name twice, a setting has the value that is chosen. -/
theorem isChosen_settingAfter (honce : (arguments.map Argument.name?).Nodup)
    (hreadable : ∀ content, .named name content ∈ arguments → ∃ result, settingOf parse ofPath? content = .ok result) :
    IsChosen parse ofPath? name arguments (settingAfter (settingOf parse ofPath?) name arguments).value where
  given content hmem := by
    obtain ⟨result, hresult⟩ := hreadable content hmem
    refine ⟨result, ?_, (settingOf_eq_ok_iff _ _ _ _).1 hresult⟩
    simp only [settingAfter, firstOf?_of_mem honce hmem, hresult, Except.toOption]
  absent hnone := by
    rw [settingAfter, (firstOf?_eq_none_iff name arguments).2 hnone]
    rfl

end

structure Chooses (arguments : List Argument) (options : ExpandOptions) : Prop where
  library : ∃ library, IsChosen Path.parse some "crate" arguments library ∧
    options.library = library.getD usualLibrary
  row : IsChosen Ident.parse Path.ident? "row" arguments options.row

theorem Chooses.perm {arguments others : List Argument} {options : ExpandOptions} (h : Chooses arguments options)
    (hperm : arguments.Perm others) : Chooses others options where
  library := by
    obtain ⟨library, hlibrary, husual⟩ := h.library
    exact ⟨library, hlibrary.perm hperm, husual⟩
  row := h.row.perm hperm

theorem Chooses.unique {arguments : List Argument} {one other : ExpandOptions} (hone : Chooses arguments one)
    (hother : Chooses arguments other) : one = other := by
  obtain ⟨first, hfirst, hone'⟩ := hone.library
  obtain ⟨second, hsecond, hother'⟩ := hother.library
  have hlibrary : one.library = other.library := by rw [hone', hother', hfirst.unique hsecond]
  have hrow : one.row = other.row := hone.row.unique hother.row
  cases one
  cases other
  congr

theorem AreAccepted.named {arguments : List Argument} (h : AreAccepted arguments) {name : String} {content : Content}
    (hmem : .named name content ∈ arguments) : IsAccepted name content := by
  obtain ⟨other, given, heq, haccepted⟩ := h.settings _ hmem
  obtain ⟨rfl, rfl⟩ := Argument.named.inj heq
  exact haccepted

def Settings.options (settings : Settings) : ExpandOptions :=
  ⟨settings.library.value.getD usualLibrary, settings.row.value⟩

theorem chooses_after {arguments : List Argument} (h : AreAccepted arguments) :
    Chooses arguments (Settings.after arguments).options where
  library := ⟨_, isChosen_settingAfter h.once fun content hmem => (isAccepted_library_iff content).1 (h.named hmem), rfl⟩
  row := isChosen_settingAfter h.once fun content hmem => (isAccepted_row_iff content).1 (h.named hmem)

/-! ## The arguments -/

structure AreRead (literal : String) (rest : List Argument) (read : Arguments) : Prop where
  template : Source.StringLiteral.value? literal = some read.template
  accepted : AreAccepted rest
  options : Chooses rest read.options

theorem AreRead.perm {literal : String} {rest reordered : List Argument} {read : Arguments}
    (h : AreRead literal rest read) (hperm : rest.Perm reordered) : AreRead literal reordered read :=
  ⟨h.template, h.accepted.perm hperm, h.options.perm hperm⟩

/-- After a template, the settings are accepted and chosen, or the arguments that offend are reported. -/
theorem ofArguments_template {literal template : String} (rest : List Argument)
    (htemplate : Source.StringLiteral.value? literal = some template) :
    (AreAccepted rest ∧ ofArguments (.literal literal :: rest) = .ok ⟨template, (Settings.after rest).options⟩) ∨
      ¬ AreAccepted rest ∧ ∃ problems, ofArguments (.literal literal :: rest) = .error problems ∧
        List.Forall₂ (fun seen problem => Reports seen.1 seen.2 problem) (offenders rest) problems := by
  obtain ⟨problems, htake, hreports⟩ := takeAll_after [] rest
  rw [List.nil_append] at htake
  have hstart : (⟨.absent, .absent⟩ : Settings) = Settings.after [] := rfl
  cases problems with
  | nil =>
    refine .inl ⟨(offenders_eq_nil_iff rest).1 (List.forall₂_nil_right_iff.1 hreports), ?_⟩
    simp only [ofArguments, htemplate, hstart, htake]
    rfl
  | cons problem problems =>
    refine .inr ⟨?_, problem :: problems, ?_, hreports⟩
    · intro haccepted
      have hnil := (offenders_eq_nil_iff rest).2 haccepted
      rw [offenders] at hnil
      rw [hnil] at hreports
      cases hreports
    · simp only [ofArguments, htemplate, hstart, htake]

theorem ofArguments_eq_ok_iff (arguments : List Argument) (read : Arguments) :
    ofArguments arguments = .ok read ↔
      ∃ literal rest, arguments = .literal literal :: rest ∧ AreRead literal rest read := by
  constructor
  · intro h
    match arguments with
    | [] => cases h
    | .named name content :: rest => cases h
    | .literal literal :: rest =>
      refine ⟨literal, rest, rfl, ?_⟩
      cases htemplate : Source.StringLiteral.value? literal with
      | none => simp [ofArguments, htemplate] at h
      | some template =>
        obtain ⟨haccepted, hok⟩ | ⟨-, problems, herror, -⟩ := ofArguments_template rest htemplate
        · obtain rfl := Except.ok.inj (hok.symm.trans h)
          exact ⟨htemplate, haccepted, chooses_after haccepted⟩
        · rw [herror] at h
          cases h
  · rintro ⟨literal, rest, rfl, hread⟩
    obtain ⟨template, options⟩ := read
    obtain ⟨-, hok⟩ | ⟨hrefused, -⟩ := ofArguments_template rest hread.template
    · have hoptions : options = (Settings.after rest).options := hread.options.unique (chooses_after hread.accepted)
      rw [hok, hoptions]
    · exact absurd hread.accepted hrefused

theorem readArguments_of_parsed {tokens : List Token} {arguments : List Argument}
    (h : argumentList.all tokens = .ok arguments) : readArguments tokens = ofArguments arguments := by
  rw [readArguments, h]

/-- Arguments are read exactly if a string literal is followed by settings that are accepted, each name once: the template
is what the literal says, the options are the given values and the usual ones otherwise, and the order of the settings does
not matter.  If a string literal is followed by anything else, there is one problem for each argument that offends. -/
theorem readArguments_accepts_settings {tokens : List Token} {arguments : List Argument}
    (hparsed : argumentList.all tokens = .ok arguments) :
    (∀ read, readArguments tokens = .ok read ↔
      ∃ literal rest, arguments = .literal literal :: rest ∧ AreRead literal rest read) ∧
    ((∃ read, readArguments tokens = .ok read) ↔
      ∃ literal template rest, arguments = .literal literal :: rest ∧
        Source.StringLiteral.value? literal = some template ∧ AreAccepted rest) ∧
    (∀ read first rest others reordered, readArguments tokens = .ok read → arguments = first :: rest →
      argumentList.all others = .ok (first :: reordered) → rest.Perm reordered → readArguments others = .ok read) ∧
    ∀ literal template rest, arguments = .literal literal :: rest →
      Source.StringLiteral.value? literal = some template → ¬ AreAccepted rest →
      ∃ problems, readArguments tokens = .error problems ∧ problems.length = (offenders rest).length ∧
        List.Forall₂ (fun seen problem => Reports seen.1 seen.2 problem) (offenders rest) problems := by
  rw [readArguments_of_parsed hparsed]
  refine ⟨ofArguments_eq_ok_iff arguments, ?_, ?_, ?_⟩
  · constructor
    · rintro ⟨read, hread⟩
      obtain ⟨literal, rest, rfl, hrest⟩ := (ofArguments_eq_ok_iff arguments read).1 hread
      exact ⟨literal, read.template, rest, rfl, hrest.template, hrest.accepted⟩
    · rintro ⟨literal, template, rest, rfl, htemplate, haccepted⟩
      exact ⟨⟨template, (Settings.after rest).options⟩,
        (ofArguments_eq_ok_iff _ _).2 ⟨literal, rest, rfl, htemplate, haccepted, chooses_after haccepted⟩⟩
  · rintro read first rest others reordered hread rfl hothers hperm
    rw [readArguments_of_parsed hothers]
    obtain ⟨literal, _, heq, hrest⟩ := (ofArguments_eq_ok_iff _ read).1 hread
    obtain ⟨rfl, rfl⟩ := List.cons.inj heq
    exact (ofArguments_eq_ok_iff _ read).2 ⟨literal, reordered, rfl, hrest.perm hperm⟩
  · rintro literal template rest rfl htemplate hrefused
    obtain ⟨haccepted, -⟩ | ⟨-, problems, herror, hreports⟩ := ofArguments_template rest htemplate
    · exact absurd haccepted hrefused
    · exact ⟨problems, herror, hreports.length_eq.symm, hreports⟩

def librarySetting : Argument := .named "crate" (.setting ⟨[Token.word "db"], .path (.ofNames false ["db"])⟩)

def rowSetting : Argument := WrittenSetting.argument ⟨"row", "\"User\""⟩

/-- `"SELECT 1", 7, crate = 5, crate = db, table = "t", row = "User"` -/
def crowdedTokens : List Token :=
  [.literal "\"SELECT 1\"", Token.mark ',', .literal "7"] ++ settingTokens [⟨"crate", "5"⟩] ++
    [Token.mark ',', Token.word "crate", Token.mark '=', Token.word "db"] ++
    settingTokens [⟨"table", "\"t\""⟩, ⟨"row", "\"User\""⟩]

def crowdedArguments : List Argument :=
  [.literal "7", WrittenSetting.argument ⟨"crate", "5"⟩, librarySetting, WrittenSetting.argument ⟨"table", "\"t\""⟩,
    rowSetting]

/-- `"SELECT 1", crate = db, row = "User"` -/
def orderedTokens : List Token :=
  [.literal "\"SELECT 1\"", Token.mark ',', Token.word "crate", Token.mark '=', Token.word "db"] ++
    settingTokens [⟨"row", "\"User\""⟩]

/-- `"SELECT 1", row = "User", crate = db` -/
def reorderedTokens : List Token :=
  writtenArguments "\"SELECT 1\"" [⟨"row", "\"User\""⟩] ++
    [Token.mark ',', Token.word "crate", Token.mark '=', Token.word "db"]

/-- Of five arguments four offend, one of them since a name is given again whose first value cannot be read.  Without
those the settings are read, in both orders. -/
theorem readArguments_accepts_settings_crowded :
    (∃ problems, readArguments crowdedTokens = .error problems ∧ problems.length = 4) ∧
    ∃ read, readArguments orderedTokens = .ok read ∧ readArguments reorderedTokens = .ok read ∧
      read.options.library = .ofNames false ["db"] ∧ read.options.row = some (.plain "User") := by
  have hcrowded : argumentList.all crowdedTokens = .ok (.literal "\"SELECT 1\"" :: crowdedArguments) := rfl
  have hordered : argumentList.all orderedTokens = .ok [.literal "\"SELECT 1\"", librarySetting, rowSetting] := rfl
  have hreordered : argumentList.all reorderedTokens = .ok [.literal "\"SELECT 1\"", rowSetting, librarySetting] := rfl
  have htemplate : Source.StringLiteral.value? "\"SELECT 1\"" = some "SELECT 1" := by decide
  have hoffenders : (offenders crowdedArguments).length = 4 := by decide +kernel
  have hnone : (offenders [librarySetting, rowSetting]).length = 0 := by decide +kernel
  obtain ⟨-, -, -, hproblems⟩ := readArguments_accepts_settings hcrowded
  obtain ⟨hread, haccepts, hreorder, -⟩ := readArguments_accepts_settings hordered
  have hrefused : ¬ AreAccepted crowdedArguments := by
    intro haccepted
    rw [(offenders_eq_nil_iff _).2 haccepted] at hoffenders
    cases hoffenders
  have haccepted := (offenders_eq_nil_iff _).1 (List.length_eq_zero_iff.1 hnone)
  obtain ⟨problems, herror, hlength, -⟩ := hproblems _ _ _ rfl htemplate hrefused
  obtain ⟨read, hok⟩ := haccepts.2 ⟨_, _, _, rfl, htemplate, haccepted⟩
  obtain ⟨_, _, heq, hsettings⟩ := (hread read).1 hok
  obtain ⟨-, rfl⟩ := List.cons.inj heq
  obtain ⟨library, hlibrary, husual⟩ := hsettings.options.library
  obtain ⟨path, rfl, hpath⟩ := hlibrary.given _ List.mem_cons_self
  obtain ⟨row, hrow, hsays⟩ := hsettings.options.row.given _ (List.mem_cons_of_mem _ List.mem_cons_self)
  have huser : settingOf Ident.parse Path.ident? (.setting ⟨[.literal "\"User\""], .literal "\"User\""⟩) =
      .ok (.plain "User") := (toOption_eq_some_iff _ _).1 (by decide +kernel)
  refine ⟨⟨problems, herror, hlength.trans hoffenders⟩, read, hok, ?_, ?_, ?_⟩
  · exact hreorder _ _ _ _ _ hok rfl hreordered (.swap _ _ _)
  · rw [husual, says_unique hpath (.path rfl rfl)]
    rfl
  · rw [hrow, says_unique hsays ((settingOf_eq_ok_iff _ _ _ _).1 huser)]

end TypedStatement.Attribute
