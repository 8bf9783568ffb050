import Mathlib.Data.List.Forall2
import Mathlib.Data.List.Nodup
import TypedStatement.Configuration.Decode
import TypedStatement.Proofs.Configuration.Tables

/-!
# Manifests that settings describe

A manifest has six settings and its statements.  Settings that hold the data of six values and of statements are read as
the manifest with these values and statements (`decode_of_describes`).
-/

namespace TypedStatement.Configuration
set_option autoImplicit false

/-! ## The six settings -/

inductive SettingKey where
  | cratePath
  | visibility
  | derives
  | header
  | level
  | format
  deriving DecidableEq

namespace SettingKey

def Value : SettingKey → Type
  | .derives => List String
  | .header => Bool
  | _ => String

/-- The table of the manifest in which the setting is. -/
def table : SettingKey → String
  | .level | .format => "logging"
  | _ => "generator"

def name : SettingKey → String
  | .cratePath => "crate_path"
  | .visibility => "visibility"
  | .derives => "derives"
  | .header => "header"
  | .level => "level"
  | .format => "format"

def get : (key : SettingKey) → Manifest → key.Value
  | .cratePath, manifest => manifest.generator.cratePath
  | .visibility, manifest => manifest.generator.visibility
  | .derives, manifest => manifest.generator.derives
  | .header, manifest => manifest.generator.header
  | .level, manifest => manifest.logging.level
  | .format, manifest => manifest.logging.format

/-- The value as plain data. -/
def datum : (key : SettingKey) → key.Value → Datum
  | .cratePath, text | .visibility, text | .level, text | .format, text => .text text
  | .derives, texts => .list (texts.map .text)
  | .header, value => .atom (.bool value)

end SettingKey

def manifestOf (values : (key : SettingKey) → key.Value) (statements : List ManifestStatement) : Manifest :=
  ⟨⟨values .cratePath, values .visibility, values .derives, values .header⟩, ⟨values .level, values .format⟩, statements⟩

theorem get_manifestOf (values : (key : SettingKey) → key.Value) (statements : List ManifestStatement)
    (key : SettingKey) : key.get (manifestOf values statements) = values key := by
  cases key <;> rfl

/-! ## Data of statements -/

def statementEntries (statement : ManifestStatement) : List (String × Datum) :=
  [("name", .text statement.name), ("sql", .text statement.sql)] ++
    (statement.row.map fun row => ("row", .text row)).toList ++ (statement.doc.map fun doc => ("doc", .text doc)).toList

/-- The datum is a table with the entries of the statement, in any order. -/
def IsStatement (datum : Datum) (statement : ManifestStatement) : Prop :=
  ∃ entries, datum = .table entries ∧ entries.Perm (statementEntries statement)

/-- A setting that may be missing has the statements, in order. -/
inductive Lists : List ManifestStatement → Option Setting → Prop
  | absent : Lists [] none
  | given {items : List Datum} {statements : List ManifestStatement} (origin : Option Origin) :
    List.Forall₂ IsStatement items statements → Lists statements (some (.ofDatum origin (.list items)))

/-- Settings hold the data of values and statements, whatever places these come from. -/
structure Describes (setting : Setting) (values : (key : SettingKey) → key.Value)
    (statements : List ManifestStatement) : Prop where
  values : ∀ key : SettingKey, ∃ origin, setting.at? key.table key.name = some (.ofDatum origin (key.datum (values key)))
  statements : Lists statements (setting.lookup? "statements")

/-! ## Fields -/

namespace Setting

def tableFields (setting : Setting) : Fields :=
  ⟨fun key => (setting.lookup? key).map (.key key, ·), .missing⟩

theorem fields_of_lookup? (shape : RecordShape) {setting value : Setting} {key : String}
    (h : setting.lookup? key = some value) : shape.fields setting = .ok setting.tableFields := by
  cases setting with
  | table origin entries => rfl
  | atom origin atom => cases h
  | list origin items => cases h

variable {α : Type} (decode : Decoder α) {setting value : Setting} {key : String} {result : α}

theorem read?_given (h : setting.lookup? key = some value) (hdecode : decode value = .ok result) :
    setting.tableFields.read? key decode = .ok (some result) := by
  simp only [tableFields, Fields.read?, h, Option.map_some, hdecode]

theorem read?_absent (h : setting.lookup? key = none) :
    setting.tableFields.read? key decode = .ok none := by
  simp only [tableFields, Fields.read?, h, Option.map_none]

theorem lookup?_of_mem (origin : Option Origin) {entries : List (String × Datum)} {datum : Datum}
    (honce : (entries.map Prod.fst).Nodup) (hmem : (key, datum) ∈ entries) :
    (ofDatum origin (.table entries)).lookup? key = some (ofDatum origin datum) := by
  rw [ofDatum_table, lookup?, Setting.entries]
  induction entries with
  | nil => cases hmem
  | cons entry entries ih =>
    obtain ⟨hfirst, hrest⟩ := List.nodup_cons.1 honce
    obtain rfl | hlater := List.mem_cons.1 hmem
    · simp
    · have hother : entry.1 ≠ key := fun heq => hfirst (List.mem_map.2 ⟨_, hlater, heq.symm⟩)
      rw [List.map_cons, List.find?_cons_of_neg (by simpa using hother)]
      exact ih hrest hlater

theorem lookup?_of_not_mem {entries : List (String × Datum)} (origin : Option Origin)
    (h : key ∉ entries.map Prod.fst) : (ofDatum origin (.table entries)).lookup? key = none := by
  have hnone : (entries.map fun entry => (entry.1, ofDatum origin entry.2)).find? (·.1 == key) = none := by
    rw [List.find?_eq_none]
    intro entry hentry
    obtain ⟨source, hsource, rfl⟩ := List.mem_map.1 hentry
    have hother : source.1 ≠ key := fun heq => h (List.mem_map.2 ⟨source, hsource, heq⟩)
    simpa using hother
  rw [ofDatum_table, lookup?, Setting.entries, hnone, Option.map_none]

end Setting

/-! ## Reading lists -/

theorem decodeItems_ok {α : Type} {decode : Decoder α} {items : List Setting} {values : List α}
    (h : List.Forall₂ (fun item value => decode item = .ok value) items values) (place : Nat) :
    decodeItems decode place items = .ok values := by
  induction h generalizing place with
  | nil => rfl
  | cons hfirst hrest ih =>
    simp only [decodeItems, hfirst, ih]
    rfl

theorem decodeList_ok {α : Type} {decode : Decoder α} {origin : Option Origin} {items : List Datum} {values : List α}
    (h : List.Forall₂ (fun datum value => decode (.ofDatum origin datum) = .ok value) items values) :
    decodeList decode (.ofDatum origin (.list items)) = .ok values := by
  rw [Setting.ofDatum_list, decodeList]
  exact decodeItems_ok (List.forall₂_map_left_iff.2 h) 0

theorem decodeTexts_ok (origin : Option Origin) (texts : List String) :
    decodeList decodeText (.ofDatum origin (.list (texts.map .text))) = .ok texts :=
  decodeList_ok (List.forall₂_map_left_iff.2 (List.forall₂_same.2 fun _ _ => rfl))

/-! ## Reading statements -/

theorem nodup_statementEntries (statement : ManifestStatement) :
    ((statementEntries statement).map Prod.fst).Nodup := by
  obtain ⟨name, sql, row, doc⟩ := statement
  cases row <;> cases doc <;> simp [statementEntries]

/-- A field that may be missing is read as it is. -/
theorem read?_optional {statement : ManifestStatement} {entries : List (String × Datum)} (key : String)
    (value : Option String) (origin : Option Origin) (hperm : entries.Perm (statementEntries statement))
    (hvalue : ∀ datum, (key, datum) ∈ statementEntries statement ↔ ∃ text, value = some text ∧ .text text = datum) :
    ∃ found, (Setting.ofDatum origin (.table entries)).tableFields.read? key (decodeOptional decodeText) = .ok found ∧
      found.join = value := by
  have honce : (entries.map Prod.fst).Nodup := (hperm.map _).nodup_iff.2 (nodup_statementEntries statement)
  cases value with
  | none =>
    refine ⟨none, Setting.read?_absent _ (Setting.lookup?_of_not_mem origin ?_), rfl⟩
    intro hmem
    obtain ⟨⟨_, datum⟩, hentry, rfl⟩ := List.mem_map.1 hmem
    obtain ⟨text, htext, -⟩ := (hvalue datum).1 (hperm.mem_iff.1 hentry)
    cases htext
  | some text =>
    have hmem : (key, .text text) ∈ entries := hperm.mem_iff.2 ((hvalue _).2 ⟨text, rfl, rfl⟩)
    exact ⟨some (some text), Setting.read?_given _ (Setting.lookup?_of_mem origin honce hmem) rfl, rfl⟩

theorem decodeStatement_ok {datum : Datum} {statement : ManifestStatement} (origin : Option Origin)
    (h : IsStatement datum statement) : decodeStatement (.ofDatum origin datum) = .ok statement := by
  obtain ⟨entries, rfl, hperm⟩ := h
  have honce : (entries.map Prod.fst).Nodup := (hperm.map _).nodup_iff.2 (nodup_statementEntries statement)
  have hname : ("name", Datum.text statement.name) ∈ entries := hperm.mem_iff.2 (by simp [statementEntries])
  have hsql : ("sql", Datum.text statement.sql) ∈ entries := hperm.mem_iff.2 (by simp [statementEntries])
  have hfields := Setting.fields_of_lookup? ⟨"StatementConfig", ["name", "sql", "row", "doc"]⟩
    (Setting.lookup?_of_mem origin honce hname)
  have hreadName := Setting.read?_given decodeText (Setting.lookup?_of_mem origin honce hname) rfl
  have hreadSql := Setting.read?_given decodeText (Setting.lookup?_of_mem origin honce hsql) rfl
  obtain ⟨row, hreadRow, hrow⟩ := read?_optional "row" statement.row origin hperm (by simp [statementEntries])
  obtain ⟨doc, hreadDoc, hdoc⟩ := read?_optional "doc" statement.doc origin hperm (by simp [statementEntries])
  simp only [decodeStatement, hfields, hreadName, hreadSql, hreadRow, hreadDoc, Fields.require, hrow, hdoc, bind,
    Except.bind, pure, Except.pure]

/-! ## Reading the manifest -/

section
variable {setting : Setting} {values : (key : SettingKey) → key.Value} {statements : List ManifestStatement}

/-- The table holds the data of the settings that are in it. -/
def Holds (values : (key : SettingKey) → key.Value) (name : String) (table : Setting) : Prop :=
  ∀ key : SettingKey, key.table = name → ∃ origin, table.lookup? key.name = some (.ofDatum origin (key.datum (values key)))

theorem exists_table (h : Describes setting values statements) (first : SettingKey) :
    ∃ table, setting.lookup? first.table = some table ∧ Holds values first.table table := by
  have hbind : ∀ key : SettingKey, ∃ table, setting.lookup? key.table = some table ∧
      ∃ origin, table.lookup? key.name = some (.ofDatum origin (key.datum (values key))) := by
    intro key
    obtain ⟨origin, hvalue⟩ := h.values key
    obtain ⟨table, htable, hname⟩ := Option.bind_eq_some_iff.1 hvalue
    exact ⟨table, htable, origin, hname⟩
  obtain ⟨table, htable, -⟩ := hbind first
  refine ⟨table, htable, fun key hkey => ?_⟩
  obtain ⟨other, hother, hvalue⟩ := hbind key
  obtain rfl : other = table := by
    rw [hkey, htable] at hother
    exact (Option.some.inj hother).symm
  exact hvalue

theorem decodeGenerator_ok {table : Setting} (h : Holds values "generator" table) :
    decodeGenerator table =
      .ok ⟨values .cratePath, values .visibility, values .derives, values .header⟩ := by
  obtain ⟨_, hcratePath⟩ := h .cratePath rfl
  obtain ⟨_, hvisibility⟩ := h .visibility rfl
  obtain ⟨_, hderives⟩ := h .derives rfl
  obtain ⟨_, hheader⟩ := h .header rfl
  have hfields := Setting.fields_of_lookup? ⟨"GeneratorSettings", ["crate_path", "visibility", "derives", "header"]⟩
    hcratePath
  have hreadCratePath := Setting.read?_given decodeText hcratePath rfl
  have hreadVisibility := Setting.read?_given decodeText hvisibility rfl
  have hreadDerives := Setting.read?_given _ hderives (decodeTexts_ok _ (values .derives))
  have hreadHeader := Setting.read?_given decodeBool hheader rfl
  simp only [SettingKey.name] at hreadCratePath hreadVisibility hreadDerives hreadHeader
  simp only [decodeGenerator, hfields, hreadCratePath, hreadVisibility, hreadDerives, hreadHeader, Fields.require, bind,
    Except.bind, pure, Except.pure]

theorem decodeLogging_ok {table : Setting} (h : Holds values "logging" table) :
    decodeLogging table = .ok ⟨values .level, values .format⟩ := by
  obtain ⟨_, hlevel⟩ := h .level rfl
  obtain ⟨_, hformat⟩ := h .format rfl
  have hfields := Setting.fields_of_lookup? ⟨"LoggingConfig", ["level", "format"]⟩ hlevel
  have hreadLevel := Setting.read?_given decodeText hlevel rfl
  have hreadFormat := Setting.read?_given decodeText hformat rfl
  simp only [SettingKey.name] at hreadLevel hreadFormat
  simp only [decodeLogging, hfields, hreadLevel, hreadFormat, Fields.require, bind, Except.bind, pure, Except.pure]

theorem exists_read?_statements (h : Lists statements (setting.lookup? "statements")) :
    ∃ found, setting.tableFields.read? "statements" (decodeList decodeStatement) = .ok found ∧
      found.getD [] = statements := by
  generalize hfound : setting.lookup? "statements" = found at h
  cases h with
  | absent => exact ⟨none, Setting.read?_absent _ hfound, rfl⟩
  | given origin hitems =>
    have hdecoded := decodeList_ok (hitems.imp fun datum statement => decodeStatement_ok origin)
    exact ⟨some statements, Setting.read?_given _ hfound hdecoded, rfl⟩

theorem decode_of_describes (h : Describes setting values statements) :
    decode setting = .ok (manifestOf values statements) := by
  obtain ⟨generator, hgenerator, hgeneratorHolds⟩ := exists_table h .cratePath
  obtain ⟨logging, hlogging, hloggingHolds⟩ := exists_table h .level
  obtain ⟨found, hstatements, hfound⟩ := exists_read?_statements h.statements
  have hfields := Setting.fields_of_lookup? ⟨"GeneratorConfig", ["generator", "logging", "statements"]⟩ hgenerator
  have hreadGenerator := Setting.read?_given _ hgenerator (decodeGenerator_ok hgeneratorHolds)
  have hreadLogging := Setting.read?_given _ hlogging (decodeLogging_ok hloggingHolds)
  simp only [SettingKey.table] at hreadGenerator hreadLogging
  simp only [decode, hfields, hreadGenerator, hreadLogging, hstatements, Fields.require, hfound, bind, Except.bind, pure,
    Except.pure, manifestOf]

end

end TypedStatement.Configuration
