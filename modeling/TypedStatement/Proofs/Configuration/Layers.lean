import Mathlib.Data.List.Forall2
import Mathlib.Data.List.Nodup
import Mathlib.Data.List.Perm.Basic
import TypedStatement.Configuration.Load
import TypedStatement.Proofs.Configuration.Decoding

/-!
# Layers of a manifest

A manifest file and the environment each give values to some of the six settings, and the file gives the statements.
Laying what one of them gives changes these settings and no other (`at?_layer_manifest`, `at?_layer_variables`).
-/

namespace TypedStatement.Configuration
set_option autoImplicit false

/-! ## Places of the settings -/

theorem KeyPath.ofText_ofList (text : List Char) :
    KeyPath.ofText (String.ofList text) = (Text.Scanner.all? keyPath text).getD [.key (String.ofList text)] := by
  rw [KeyPath.ofText, String.toList_ofList]

namespace SettingKey

def all : List SettingKey := [.cratePath, .visibility, .derives, .header, .level, .format]

theorem mem_all (key : SettingKey) : key ∈ all := by
  cases key <;> decide

def variableName : SettingKey → String
  | .cratePath => "PGSTMT__GENERATOR__CRATE_PATH"
  | .visibility => "PGSTMT__GENERATOR__VISIBILITY"
  | .derives => "PGSTMT__GENERATOR__DERIVES"
  | .header => "PGSTMT__GENERATOR__HEADER"
  | .level => "PGSTMT__LOGGING__LEVEL"
  | .format => "PGSTMT__LOGGING__FORMAT"

def path (key : SettingKey) : String := key.table ++ "." ++ key.name

variable (key : SettingKey)

theorem variablePath?_variableName : variablePath? key.variableName = some key.path := by
  have hread : variablePath? key.variableName =
      if variableStart.isPrefixOf (Text.lowercaseText key.variableName.toList) then
        some (String.ofList (pointed ((Text.lowercaseText key.variableName.toList).drop variableStart.length)))
      else none := by
    simp only [variablePath?, Text.lowercaseString, String.toList_ofList]
  rw [hread]
  cases key <;> rw [variableName, String.toList_ofList] <;> rfl

theorem path_eq_listPath_iff : key.path = listPath ↔ key = .derives := by
  cases key <;> simp [path, table, name, listPath]

theorem ofText_path : KeyPath.ofText key.path = [.key key.table, .key key.name] := by
  have hpath : key.path.toList = key.table.toList ++ '.' :: key.name.toList := by
    rw [path, String.toList_append, String.toList_append, List.append_assoc]
    rfl
  rw [KeyPath.ofText, hpath]
  cases key <;> dsimp only [table, name] <;> rw [String.toList_ofList, String.toList_ofList] <;> rfl

theorem lowercase_name : Text.lowercaseString key.name = key.name := by
  cases key <;> decide

theorem ofText_table : KeyPath.ofText key.table = [.key key.table] := by
  cases key <;> exact (KeyPath.ofText_ofList _).trans rfl

theorem lowercase_table : Text.lowercaseString key.table = key.table := by
  cases key <;> decide

theorem table_eq : key.table = "generator" ∨ key.table = "logging" := by
  cases key <;> decide

theorem table_ne_statements : key.table ≠ "statements" := by
  cases key <;> decide

/-- A setting is known by its place. -/
theorem eq_of_place {key other : SettingKey} (htable : key.table = other.table) (hname : key.name = other.name) :
    key = other := by
  cases key <;> cases other <;> first | rfl | exact absurd hname (by decide)

theorem isSingle_datum (origin : Option Origin) (value : key.Value) :
    (Setting.ofDatum origin (key.datum value)).IsSingle := by
  cases key <;> trivial

theorem at?_defaults : defaults.at? key.table key.name = some (.ofDatum none (key.datum (key.get .default))) := by
  cases key <;> rfl

end SettingKey

/-! ## What a layer gives -/

/-- Values for some of the settings. -/
abbrev Layer := (key : SettingKey) → Option key.Value

namespace Layer

variable (layer : Layer)

def setting? (origin : Option Origin) (key : SettingKey) : Option Setting :=
  (layer key).map fun value => .ofDatum origin (key.datum value)

def entries (table : String) : List (String × Datum) :=
  (SettingKey.all.filter (·.table = table)).filterMap fun key => (layer key).map fun value => (key.name, key.datum value)

theorem mem_entries_iff (table : String) (entry : String × Datum) :
    entry ∈ layer.entries table ↔
      ∃ key value, key.table = table ∧ layer key = some value ∧ entry = (key.name, key.datum value) := by
  simp only [entries, List.mem_filterMap, List.mem_filter, SettingKey.mem_all, true_and, decide_eq_true_eq,
    Option.map_eq_some_iff]
  constructor
  · rintro ⟨key, htable, value, hvalue, rfl⟩
    exact ⟨key, value, htable, hvalue, rfl⟩
  · rintro ⟨key, value, htable, hvalue, rfl⟩
    exact ⟨key, htable, value, hvalue, rfl⟩

end Layer

/-- A table of the file gives the settings in it, in any order; it may be missing if it gives none. -/
inductive IsSection (layer : Layer) (table : String) : List (String × Datum) → Prop
  | absent : layer.entries table = [] → IsSection layer table []
  | given {entries : List (String × Datum)} : entries.Perm (layer.entries table) →
    IsSection layer table [(table, .table entries)]

/-- The list of statements of the file; it may be missing if there are none. -/
inductive IsListing (statements : List ManifestStatement) : List (String × Datum) → Prop
  | absent : statements = [] → IsListing statements []
  | given {items : List Datum} : List.Forall₂ IsStatement items statements →
    IsListing statements [("statements", .list items)]

/-- The entries of a file that gives a layer and statements, in any order. -/
def IsManifest (layer : Layer) (statements : List ManifestStatement) (entries : List (String × Datum)) : Prop :=
  ∃ generator logging listing, IsSection layer "generator" generator ∧ IsSection layer "logging" logging ∧
    IsListing statements listing ∧ entries.Perm (generator ++ logging ++ listing)

/-- The text reads as itself: as no truth value and no number. -/
structure IsPlain (text : String) : Prop where
  noBool : Text.lowercaseString text ≠ "true" ∧ Text.lowercaseString text ≠ "false"
  noInt : Number.intOf? text.toList = none
  noDouble : Number.doubleOf? text.toList = none

/-- The text has the items between its commas. -/
structure IsListText (text : String) (items : List String) : Prop where
  plain : IsPlain text
  split : items ≠ [] ∧ ∀ item ∈ items, ',' ∉ item.toList
  text : text = String.intercalate "," items

/-- The text of a variable says the value of the setting. -/
def SettingKey.Spells : (key : SettingKey) → String → key.Value → Prop
  | .cratePath, text, value | .visibility, text, value | .level, text, value | .format, text, value =>
    IsPlain text ∧ value = text
  | .derives, text, items => IsListText text items
  | .header, text, value => text = boolText value

/-- The variables give a layer, and no other setting.  Each variable is there once. -/
structure IsEnvironment (layer : Layer) (environment : List (String × String)) : Prop where
  once : (environment.map Prod.fst).Nodup
  given : ∀ key value, layer key = some value → ∃ text, (key.variableName, text) ∈ environment ∧ key.Spells text value
  others : ∀ name text, (name, text) ∈ environment → variablePath? name = none ∨
    ∃ key value, name = SettingKey.variableName key ∧ layer key = some value

/-- What a path leads to gives a layer and statements: nothing, or a file in its format. -/
inductive Gives (directory : String) (kind? : String → Option FileKind) (path : String) :
    Layer → List ManifestStatement → Prop
  | absent : kind? path = none → Gives directory kind? path (fun _ => none) []
  | file {kind : FileKind} {file : ManifestFile} {entries : List (String × Datum)} {layer : Layer}
    {statements : List ManifestStatement} : kind? path = some kind → findFile directory kind? path = .ok file →
    file.format.read? (String.ofList (Toml.withoutMark file.content.toList)) = some entries →
    IsManifest layer statements entries → Gives directory kind? path layer statements

/-! ## Laying a file -/

section
variable (layer : Layer) (origin : Option Origin)

theorem lookup?_layAll_entries {key : SettingKey} {entries : List (String × Datum)}
    (hperm : entries.Perm (layer.entries key.table)) (target : Setting) :
    (target.layAll (Setting.ofEntries origin entries)).lookup? key.name =
      (layer.setting? origin key).or (target.lookup? key.name) := by
  rw [Setting.layAll_eq_foldl, Setting.ofEntries_eq_map, List.foldl_map]
  have hgives : ∀ value, layer key = some value → ∀ state : Setting,
      (state.lay key.name (.ofDatum origin (key.datum value))).lookup? key.name =
        (layer.setting? origin key).or (state.lookup? key.name) := by
    intro value hvalue state
    have hlaid := Setting.lookup?_lay_single state key.name (key.isSingle_datum origin value)
    rw [key.lowercase_name] at hlaid
    simp [hlaid, Layer.setting?, hvalue]
  refine Setting.foldl_overrides _ (Setting.lookup? key.name) ?_ ?_ target
  · intro entry hentry
    obtain ⟨other, value, htable, hvalue, rfl⟩ := (layer.mem_entries_iff _ _).1 (hperm.mem_iff.1 hentry)
    by_cases hname : key.name = other.name
    · obtain rfl := SettingKey.eq_of_place htable hname.symm
      exact .inr (hgives value hvalue)
    · refine .inl fun state => Setting.lookup?_lay_other _ _ _ _ ?_
      rwa [other.lowercase_name]
  · intro laid hlaid
    obtain ⟨value, hvalue, -⟩ := Option.map_eq_some_iff.1 hlaid
    have hmem : (key.name, key.datum value) ∈ entries :=
      hperm.mem_iff.2 ((layer.mem_entries_iff _ _).2 ⟨key, value, rfl, hvalue, rfl⟩)
    exact ⟨_, hmem, hgives value hvalue⟩

def layEntry (setting : Setting) (entry : String × Datum) : Setting :=
  Setting.layAt (.ofDatum origin entry.2) (KeyPath.ofText entry.1) setting

theorem layer_ofEntries (entries : List (String × Datum)) (setting : Setting) :
    setting.layer (Setting.ofEntries origin entries) = entries.foldl (layEntry origin) setting := by
  rw [Setting.layer, Setting.ofEntries_eq_map, List.foldl_map]
  rfl

/-- Laying a table of the file changes the settings in it that it gives. -/
theorem at?_layEntry_section {key : SettingKey} {entries : List (String × Datum)}
    (hperm : entries.Perm (layer.entries key.table)) (setting : Setting) :
    (layEntry origin setting (key.table, .table entries)).at? key.table key.name =
      (layer.setting? origin key).or (setting.at? key.table key.name) := by
  have hmerged := Setting.lookup?_lay_table setting key.table origin (Setting.ofEntries origin entries)
  rw [key.lowercase_table] at hmerged
  have htable : Setting.ofDatum origin (.table entries) = .table origin (Setting.ofEntries origin entries) := rfl
  rw [layEntry, key.ofText_table, Setting.layAt_last, htable, Setting.at?, hmerged, Option.bind_some,
    lookup?_layAll_entries layer origin hperm, Setting.at?]
  cases setting.lookup? key.table with
  | none => rfl
  | some table => rfl

end

/-- The name of an entry of the file, which is laid at this name. -/
def IsTopName (name : String) : Prop :=
  KeyPath.ofText name = [.key name] ∧ Text.lowercaseString name = name

theorem isTopName_table (key : SettingKey) : IsTopName key.table :=
  ⟨key.ofText_table, key.lowercase_table⟩

theorem isTopName_statements : IsTopName "statements" :=
  ⟨(KeyPath.ofText_ofList _).trans rfl, by decide⟩

theorem lookup?_layEntry_other {name : String} {entry : String × Datum} (htop : IsTopName entry.1) (h : name ≠ entry.1)
    (origin : Option Origin) (setting : Setting) : (layEntry origin setting entry).lookup? name = setting.lookup? name := by
  rw [layEntry, htop.1, Setting.layAt_last]
  exact Setting.lookup?_lay_other _ _ _ _ (by rwa [htop.2])

section
variable {layer : Layer} {statements : List ManifestStatement} {entries : List (String × Datum)}

theorem IsSection.name_eq {table : String} (h : IsSection layer table entries) {entry : String × Datum}
    (hentry : entry ∈ entries) : entry.1 = table := by
  cases h with
  | absent => cases hentry
  | given => rw [List.mem_singleton.1 hentry]

theorem IsListing.name_eq (h : IsListing statements entries) {entry : String × Datum} (hentry : entry ∈ entries) :
    entry.1 = "statements" := by
  cases h with
  | absent => cases hentry
  | given => rw [List.mem_singleton.1 hentry]

/-- The entries of a file are its table with a setting and others, which are laid elsewhere. -/
theorem IsManifest.exists_section (h : IsManifest layer statements entries) (key : SettingKey) :
    ∃ inside outside : List (String × Datum), IsSection layer key.table inside ∧
      (∀ entry, entry ∈ entries ↔ entry ∈ inside ∨ entry ∈ outside) ∧
      ∀ entry ∈ outside, IsTopName entry.1 ∧ key.table ≠ entry.1 := by
  obtain ⟨generator, logging, listing, hgenerator, hlogging, hlisting, hperm⟩ := h
  have hgeneratorTop : IsTopName "generator" := isTopName_table .header
  have hloggingTop : IsTopName "logging" := isTopName_table .level
  obtain htable | htable := key.table_eq
  · refine ⟨generator, logging ++ listing, htable ▸ hgenerator, fun entry => ?_, fun entry hentry => ?_⟩
    · rw [hperm.mem_iff, List.append_assoc, List.mem_append]
    · obtain hentry | hentry := List.mem_append.1 hentry
      · rw [hlogging.name_eq hentry, htable]
        exact ⟨hloggingTop, by decide⟩
      · rw [hlisting.name_eq hentry]
        exact ⟨isTopName_statements, key.table_ne_statements⟩
  · refine ⟨logging, generator ++ listing, htable ▸ hlogging, fun entry => ?_, fun entry hentry => ?_⟩
    · rw [hperm.mem_iff, List.append_assoc, List.mem_append, List.mem_append, List.mem_append]
      exact or_left_comm
    · obtain hentry | hentry := List.mem_append.1 hentry
      · rw [hgenerator.name_eq hentry, htable]
        exact ⟨hgeneratorTop, by decide⟩
      · rw [hlisting.name_eq hentry]
        exact ⟨isTopName_statements, key.table_ne_statements⟩

/-- Laying a file changes the settings that it gives, and no other. -/
theorem at?_layer_manifest (h : IsManifest layer statements entries) (origin : Option Origin) (setting : Setting)
    (key : SettingKey) :
    (setting.layer (Setting.ofEntries origin entries)).at? key.table key.name =
      (layer.setting? origin key).or (setting.at? key.table key.name) := by
  obtain ⟨inside, outside, hinside, hentries, houtside⟩ := h.exists_section key
  rw [layer_ofEntries]
  refine Setting.foldl_overrides _ (Setting.at? key.table key.name) ?_ ?_ setting
  · intro entry hentry
    obtain hentry | hentry := (hentries entry).1 hentry
    · cases hinside with
      | absent => cases hentry
      | given hperm =>
        obtain rfl := List.mem_singleton.1 hentry
        exact .inr (at?_layEntry_section layer origin hperm)
    · obtain ⟨htop, hother⟩ := houtside entry hentry
      exact .inl fun state => Setting.at?_congr (lookup?_layEntry_other htop hother origin state)
  · intro laid hlaid
    obtain ⟨value, hvalue, -⟩ := Option.map_eq_some_iff.1 hlaid
    have hmem := (layer.mem_entries_iff key.table _).2 ⟨key, value, rfl, hvalue, rfl⟩
    -- A table that is missing gives nothing.
    cases hinside with
    | absent hnone =>
      rw [hnone] at hmem
      cases hmem
    | given hperm =>
      exact ⟨_, (hentries _).2 (.inl List.mem_cons_self), at?_layEntry_section layer origin hperm⟩

theorem lists_layer_manifest (h : IsManifest layer statements entries) (origin : Option Origin) {setting : Setting}
    (hnone : setting.lookup? "statements" = none) :
    Lists statements ((setting.layer (Setting.ofEntries origin entries)).lookup? "statements") := by
  obtain ⟨generator, logging, listing, hgenerator, hlogging, hlisting, hperm⟩ := h
  have hkeeps : ∀ entry ∈ generator ++ logging, ∀ state,
      (layEntry origin state entry).lookup? "statements" = state.lookup? "statements" := by
    intro entry hentry state
    have htable : ∃ key : SettingKey, entry.1 = key.table :=
      (List.mem_append.1 hentry).elim (fun hmem => ⟨.header, hgenerator.name_eq hmem⟩)
        fun hmem => ⟨.level, hlogging.name_eq hmem⟩
    obtain ⟨key, hkey⟩ := htable
    refine lookup?_layEntry_other ?_ ?_ origin state
    · exact hkey ▸ isTopName_table key
    · exact hkey ▸ key.table_ne_statements.symm
  rw [layer_ofEntries]
  cases hlisting with
  | absent hempty =>
    have hlaid := Setting.foldl_keeps (layEntry origin) (Setting.lookup? "statements") entries
      (fun entry hentry => hkeeps entry (by simpa using hperm.mem_iff.1 hentry)) setting
    rw [hlaid, hnone, hempty]
    exact .absent
  | @given items hitems =>
    have hgives : ∀ state, (layEntry origin state ("statements", .list items)).lookup? "statements" =
        some (.ofDatum origin (.list items)) := by
      intro state
      have hsingle : (Setting.ofDatum origin (.list items)).IsSingle := trivial
      have hlaid := Setting.lookup?_lay_single state "statements" hsingle
      rw [isTopName_statements.2] at hlaid
      rwa [layEntry, isTopName_statements.1, Setting.layAt_last]
    have hlast : ("statements", Datum.list items) ∈ entries :=
      hperm.mem_iff.2 (List.mem_append_right _ List.mem_cons_self)
    have hlaid := Setting.foldl_gives (layEntry origin) (Setting.lookup? "statements") hlast hgives ?_ setting
    · rw [hlaid]
      exact .given origin hitems
    · intro entry hentry
      obtain hentry | hentry := List.mem_append.1 (hperm.mem_iff.1 hentry)
      · exact .inl (hkeeps entry hentry)
      · obtain rfl := List.mem_singleton.1 hentry
        exact .inr hgives

end

/-! ## Laying the environment -/

theorem pieces_intercalate {items : List String} (hne : items ≠ []) (h : ∀ item ∈ items, ',' ∉ item.toList) :
    Text.pieces ',' (String.intercalate "," items) = items := by
  have htext : (String.intercalate "," items).toList = [','].intercalate (items.map String.toList) :=
    String.toList_intercalate
  have hsplit : ([','].intercalate (items.map String.toList)).splitOn ',' = items.map String.toList :=
    List.splitOn_intercalate ',' (List.forall_mem_map.2 h) (by simpa using hne)
  rw [Text.pieces, htext, hsplit, List.map_map]
  simp [Function.comp_def]

theorem variableDatum_of_isPlain {text : String} (h : IsPlain text) (path : String) :
    variableDatum path text = if path = listPath then .list ((Text.pieces ',' text).map .text) else .text text := by
  obtain ⟨hbool, hint, hdouble⟩ := h
  simp only [variableDatum, hbool.1, hbool.2, if_false, hint, hdouble]

theorem variableDatum_boolText (path : String) (value : Bool) : variableDatum path (boolText value) = .atom (.bool value) := by
  have hlower : Text.lowercaseString (boolText value) = boolText value := by
    cases value <;> decide
  rw [variableDatum, hlower]
  cases value <;> rfl

theorem variableDatum_of_spells {key : SettingKey} {text : String} {value : key.Value} (h : key.Spells text value) :
    variableDatum key.path text = key.datum value := by
  have htext : key ≠ .derives → IsPlain text → variableDatum key.path text = .text text := by
    intro hkey hplain
    rw [variableDatum_of_isPlain hplain, if_neg (key.path_eq_listPath_iff.not.2 hkey)]
  cases key with
  | cratePath =>
    obtain ⟨hplain, rfl⟩ := h
    exact htext (by decide) hplain
  | visibility =>
    obtain ⟨hplain, rfl⟩ := h
    exact htext (by decide) hplain
  | level =>
    obtain ⟨hplain, rfl⟩ := h
    exact htext (by decide) hplain
  | format =>
    obtain ⟨hplain, rfl⟩ := h
    exact htext (by decide) hplain
  | derives =>
    obtain ⟨hplain, ⟨hne, hcommas⟩, rfl⟩ := h
    rw [variableDatum_of_isPlain hplain, if_pos ((SettingKey.path_eq_listPath_iff _).2 rfl),
      pieces_intercalate hne hcommas]
    rfl
  | header =>
    obtain rfl : text = boolText value := h
    exact variableDatum_boolText _ value

section
variable {layer : Layer} {environment : List (String × String)}

/-- The variables are laid as the settings of the layer. -/
theorem IsEnvironment.mem_ofVariables_iff (h : IsEnvironment layer environment) (change : String × Setting) :
    change ∈ ofVariables environment ↔
      ∃ key value, layer key = some value ∧ change = (key.path, .ofDatum (some .environment) (key.datum value)) := by
  -- A variable is there once, so its text is the one that says the value.
  have hchange : ∀ key text value, (SettingKey.variableName key, text) ∈ environment → layer key = some value →
      variableDatum key.path text = key.datum value := by
    intro key text value hmem hvalue
    obtain ⟨given, hgiven, hspells⟩ := h.given key value hvalue
    have hsame := List.inj_on_of_nodup_map h.once hmem hgiven rfl
    rw [(Prod.mk.inj hsame).2]
    exact variableDatum_of_spells hspells
  simp only [ofVariables, List.mem_filterMap, Option.map_eq_some_iff]
  constructor
  · rintro ⟨⟨name, text⟩, hmem, path, hpath, rfl⟩
    obtain hnone | ⟨key, value, rfl, hvalue⟩ := h.others name text hmem
    · rw [hnone] at hpath
      cases hpath
    · obtain rfl := Option.some.inj (key.variablePath?_variableName.symm.trans hpath)
      exact ⟨key, value, hvalue, by rw [hchange key text value hmem hvalue]⟩
  · rintro ⟨key, value, hvalue, rfl⟩
    obtain ⟨text, hmem, -⟩ := h.given key value hvalue
    exact ⟨(key.variableName, text), hmem, key.path, key.variablePath?_variableName,
      by rw [hchange key text value hmem hvalue]⟩

/-- Laying a variable changes its setting, and no other. -/
theorem at?_layAt_path (setting : Setting) (key other : SettingKey) (origin : Option Origin) (value : other.Value) :
    (Setting.layAt (.ofDatum origin (other.datum value)) (KeyPath.ofText other.path) setting).at? key.table key.name =
      if key = other then some (.ofDatum origin (other.datum value)) else setting.at? key.table key.name := by
  rw [other.ofText_path, Setting.at?_layAt _ (other.isSingle_datum origin value) other.lowercase_name]
  by_cases hsame : key = other
  · subst hsame
    rw [if_pos ⟨rfl, rfl⟩, if_pos rfl]
  · rw [if_neg fun hplace => hsame (SettingKey.eq_of_place hplace.1 hplace.2), if_neg hsame]

theorem at?_layer_variables (h : IsEnvironment layer environment) (setting : Setting) (key : SettingKey) :
    (setting.layer (ofVariables environment)).at? key.table key.name =
      (layer.setting? (some .environment) key).or (setting.at? key.table key.name) := by
  have hgives : ∀ value, layer key = some value → ∀ state : Setting,
      (Setting.layAt (.ofDatum (some .environment) (key.datum value)) (KeyPath.ofText key.path) state).at? key.table
        key.name = (layer.setting? (some .environment) key).or (state.at? key.table key.name) := by
    intro value hvalue state
    rw [at?_layAt_path, if_pos rfl, Layer.setting?, hvalue]
    rfl
  refine Setting.foldl_overrides _ (Setting.at? key.table key.name) ?_ ?_ setting
  · intro change hchange
    obtain ⟨other, value, hvalue, rfl⟩ := (h.mem_ofVariables_iff change).1 hchange
    by_cases hsame : key = other
    · subst hsame
      exact .inr (hgives value hvalue)
    · refine .inl fun state => ?_
      rw [at?_layAt_path, if_neg hsame]
  · intro laid hlaid
    obtain ⟨value, hvalue, -⟩ := Option.map_eq_some_iff.1 hlaid
    exact ⟨_, (h.mem_ofVariables_iff _).2 ⟨key, value, hvalue, rfl⟩, hgives value hvalue⟩

theorem lookup?_layer_variables (h : IsEnvironment layer environment) (setting : Setting) :
    (setting.layer (ofVariables environment)).lookup? "statements" = setting.lookup? "statements" := by
  refine Setting.foldl_keeps _ (Setting.lookup? "statements") _ ?_ setting
  intro change hchange state
  obtain ⟨key, value, -, rfl⟩ := (h.mem_ofVariables_iff change).1 hchange
  simp only [key.ofText_path]
  exact Setting.lookup?_layAt_other _ _ _ _ (List.cons_ne_nil _ _) key.table_ne_statements.symm

end

end TypedStatement.Configuration
