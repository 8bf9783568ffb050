import TypedStatement.Proofs.Configuration.Layers
import TypedStatement.Proofs.Json.Reading

/-!
# Settings that override one another

The manifest that is loaded has for each setting by itself the value of the environment, else that of the file, else the
usual one, and it has the statements of the file (`load_overrides`).
-/

namespace TypedStatement.Configuration
set_option autoImplicit false

/-! ## The value of a setting -/

/-- The upper value if there is one, else the lower one, else the usual one. -/
def chosen (upper lower : Layer) (key : SettingKey) : key.Value :=
  ((upper key).or (lower key)).getD (key.get .default)

section
variable {upper lower : Layer} {statements : List ManifestStatement} {environment : List (String × String)}

theorem describes_layers (hupper : IsEnvironment upper environment) {origin : Option Origin} {laid : Setting}
    (hlaid : ∀ key : SettingKey,
      laid.at? key.table key.name = (lower.setting? origin key).or (defaults.at? key.table key.name))
    (hstatements : Lists statements (laid.lookup? "statements")) :
    Describes (laid.layer (ofVariables environment)) (chosen upper lower) statements where
  values key := by
    rw [at?_layer_variables hupper, hlaid, key.at?_defaults, chosen, Layer.setting?, Layer.setting?]
    cases upper key with
    | some value => exact ⟨_, rfl⟩
    | none =>
      cases lower key with
      | some value => exact ⟨_, rfl⟩
      | none => exact ⟨_, rfl⟩
  statements := by
    rwa [lookup?_layer_variables hupper]

theorem lookup?_statements_defaults : defaults.lookup? "statements" = none := rfl

/-! ## Loading -/

theorem ofLayers_absent (hupper : IsEnvironment upper environment) :
    ofLayers none environment = .ok (manifestOf (chosen upper fun _ => none) []) := by
  have hstatements : Lists [] (defaults.lookup? "statements") := lookup?_statements_defaults ▸ .absent
  have hvalues : ∀ key : SettingKey, defaults.at? key.table key.name =
      (Layer.setting? (fun _ => none) none key).or (defaults.at? key.table key.name) := fun key => rfl
  exact decode_of_describes (describes_layers hupper hvalues hstatements)

theorem ofLayers_manifest {entries : List (String × Datum)} (hlower : IsManifest lower statements entries)
    (hupper : IsEnvironment upper environment) (origin : Option Origin) :
    ofLayers (some (Setting.ofEntries origin entries)) environment = .ok (manifestOf (chosen upper lower) statements) :=
  decode_of_describes (describes_layers hupper (at?_layer_manifest hlower origin defaults)
    (lists_layer_manifest hlower origin lookup?_statements_defaults))

theorem load_ok {directory path : String} {kind? : String → Option FileKind}
    (hlower : Gives directory kind? path lower statements) (hupper : IsEnvironment upper environment) :
    load directory kind? environment path = .ok (manifestOf (chosen upper lower) statements) := by
  cases hlower with
  | absent hkind =>
    simp only [load, hkind, ofLayers_absent hupper]
    rfl
  | file hkind hfound hread hmanifest =>
    simp only [load, hkind, hfound, fileLayer, hread, ofLayers_manifest hmanifest hupper]
    rfl

/-- A manifest is loaded.  Each of its settings has the value of its variable, else that of the file, else the usual one, and
its statements are those of the file.  Where one setting is given in another way, the others stay as they were. -/
theorem load_overrides {directory path : String} {kind? : String → Option FileKind}
    (hlower : Gives directory kind? path lower statements) (hupper : IsEnvironment upper environment) :
    ∃ manifest, load directory kind? environment path = .ok manifest ∧
      (∀ key : SettingKey, key.get manifest = ((upper key).or (lower key)).getD (key.get .default)) ∧
      manifest.statements = statements ∧
      ∀ key files others otherUpper otherLower, Gives directory files path otherLower statements →
        IsEnvironment otherUpper others →
        (∀ kept : SettingKey, kept ≠ key → otherUpper kept = upper kept ∧ otherLower kept = lower kept) →
        ∃ changed, load directory files others path = .ok changed ∧ changed.statements = statements ∧
          ∀ kept : SettingKey, kept ≠ key → kept.get changed = kept.get manifest := by
  refine ⟨_, load_ok hlower hupper, get_manifestOf _ _, rfl, ?_⟩
  intro key files others otherUpper otherLower hotherLower hotherUpper hsame
  refine ⟨_, load_ok hotherLower hotherUpper, rfl, fun kept hkept => ?_⟩
  obtain ⟨hsameUpper, hsameLower⟩ := hsame kept hkept
  rw [get_manifestOf, get_manifestOf, chosen, chosen, hsameUpper, hsameLower]

end

def fileStatement : Datum := .table [("sql", .text "SELECT 1"), ("name", .text "one")]

def fileSection : List (String × Datum) :=
  [("header", .atom (.bool false)), ("derives", .list [.text "Debug"]), ("crate_path", .text "crate::db")]

/-- A file that gives one statement and some settings of one table. -/
def fileEntries : List (String × Datum) :=
  [("statements", .list [fileStatement]), ("generator", .table fileSection)]

def fileText : String := Json.write (.table fileEntries)

def onlyFile (path : String) : Option FileKind :=
  if path = "pgstmt.json" then some (.file fileText) else none

def fileValues : Layer
  | .cratePath => some "crate::db"
  | .derives => some ["Debug"]
  | .header => some false
  | _ => none

def shellVariables : List (String × String) :=
  [("PGSTMT__LOGGING__LEVEL", "debug"), ("PATH", "/bin"), ("PGSTMT__GENERATOR__DERIVES", "Clone,Eq")]

def shellValues : Layer
  | .derives => some ["Clone", "Eq"]
  | .level => some "debug"
  | _ => none

theorem gives_file : Gives "" onlyFile "pgstmt.json" fileValues [⟨"one", "SELECT 1", none, none⟩] := by
  have hsection : fileSection.Perm (fileValues.entries "generator") := List.reverse_perm (fileValues.entries "generator")
  have hstatement : IsStatement fileStatement ⟨"one", "SELECT 1", none, none⟩ := ⟨_, rfl, .swap _ _ _⟩
  have hmanifest : IsManifest fileValues [⟨"one", "SELECT 1", none, none⟩] fileEntries :=
    ⟨_, _, _, .given hsection, .absent rfl, .given (.cons hstatement .nil), .swap _ _ _⟩
  -- The text is that of the data, so it is read back without being computed.
  have hkept : Json.Reading.settings.Keeps 3 (.table fileEntries) := by
    simp [fileEntries, fileSection, fileStatement, Json.Reading.Keeps, Json.Reading.KeepsAtom, Json.Reading.settings,
      Json.lastEntries, Datum.text]
  have hdatum : Json.read? fileText = some (.table fileEntries) :=
    Json.read?_write Json.Reading.settings 3 (by decide) _ hkept
  have hmark : String.ofList (Toml.withoutMark fileText.toList) = fileText := by
    rw [fileText, Json.write, String.toList_ofList]
    rfl
  have hformat : formats.find? (·.extension == extensionOf (((plainParts "pgstmt.json").getLast?).getD "")) = some .json := by
    decide
  have hkind : onlyFile "pgstmt.json" = some (.file fileText) := rfl
  have hfound : findFile "" onlyFile "pgstmt.json" = .ok ⟨"pgstmt.json", .json, fileText⟩ := by
    simp only [findFile, hkind, hformat]
  have hread : Format.json.read? (String.ofList (Toml.withoutMark fileText.toList)) = some fileEntries := by
    rw [hmark, Format.read?, hdatum]
  exact .file hkind hfound hread hmanifest

theorem isEnvironment_shell : IsEnvironment shellValues shellVariables where
  once := by decide
  given key value hvalue := by
    cases key with
    | level =>
      obtain rfl := Option.some.inj hvalue
      exact ⟨"debug", by decide, ⟨by decide, by decide, by decide⟩, rfl⟩
    | derives =>
      obtain rfl := Option.some.inj hvalue
      exact ⟨"Clone,Eq", by decide, ⟨by decide, by decide, by decide +kernel⟩, by decide, by decide⟩
    | cratePath => cases hvalue
    | visibility => cases hvalue
    | header => cases hvalue
    | format => cases hvalue
  others name text hmem := by
    simp only [shellVariables, List.mem_cons, Prod.mk.injEq, List.not_mem_nil, or_false] at hmem
    obtain ⟨rfl, -⟩ | ⟨rfl, -⟩ | ⟨rfl, -⟩ := hmem
    · exact .inr ⟨.level, "debug", rfl, rfl⟩
    · exact .inl (by decide)
    · exact .inr ⟨.derives, ["Clone", "Eq"], rfl, rfl⟩

/-- The file gives three settings and the environment two, one of them again. -/
theorem load_overrides_mixed :
    load "" onlyFile shellVariables "pgstmt.json" =
      .ok ⟨⟨"crate::db", "pub", ["Clone", "Eq"], false⟩, ⟨"debug", "pretty"⟩, [⟨"one", "SELECT 1", none, none⟩]⟩ := by
  obtain ⟨⟨⟨cratePath, visibility, derives, header⟩, ⟨level, format⟩, statements⟩, hload, hvalues, hstatements, -⟩ :=
    load_overrides gives_file isEnvironment_shell
  obtain rfl : cratePath = "crate::db" := hvalues .cratePath
  obtain rfl : visibility = "pub" := hvalues .visibility
  obtain rfl : derives = ["Clone", "Eq"] := hvalues .derives
  obtain rfl : header = false := hvalues .header
  obtain rfl : level = "debug" := hvalues .level
  obtain rfl : format = "pretty" := hvalues .format
  obtain rfl : statements = [⟨"one", "SELECT 1", none, none⟩] := hstatements
  exact hload

end TypedStatement.Configuration
