import TypedStatement.Configuration.Setting
import TypedStatement.Text.Escape

/-!
# Reading a manifest from settings

Settings are read as the fields of a manifest.  A text may also be given as a truth value or a number, and a truth value
as a number or a word.  A record is a table, or a list of its fields in order.
-/

namespace TypedStatement.Configuration
set_option autoImplicit false

open Number (Double)

/-! ## Errors -/

/-- What a setting is. -/
inductive Found where
  | unit
  | bool (value : Bool)
  | int (value : Int)
  | float (value : Double)
  | text (value : String)
  | list
  | table
  deriving DecidableEq

def Setting.found : Setting → Found
  | .atom _ .null => .unit
  | .atom _ (.bool value) => .bool value
  | .atom _ (.int value) => .int value
  | .atom _ (.float value) => .float value
  | .atom _ (.text value) => .text value
  | .list _ _ => .list
  | .table _ _ => .table

def boolText (value : Bool) : String := if value then "true" else "false"

/-- What a setting is, in words. -/
def Found.describe : Found → String
  | .unit => "unit value"
  | .bool value => "boolean `" ++ boolText value ++ "`"
  | .int value => "integer `" ++ toString value ++ "`"
  | .float value => "floating point `" ++ value.pointedText ++ "`"
  | .text value => "string " ++ Text.quoted value
  | .list => "sequence"
  | .table => "map"

/-- Part of the way from the outermost table to a setting. -/
inductive Location.Part where
  | key (name : String)
  | item (place : Nat)
  deriving DecidableEq

/-- The way to a setting as messages show it: a point stands before a key that another key follows. -/
def wayText : List Location.Part → String
  | [] => ""
  | [.key name] => name
  | [.item place] => "[" ++ toString place ++ "]"
  | .key name :: .key next :: rest => name ++ "." ++ wayText (.key next :: rest)
  | .key name :: .item place :: rest => name ++ wayText (.item place :: rest)
  | .item place :: rest => "[" ++ toString place ++ "]" ++ wayText rest

/-- A record that settings are read as. -/
structure RecordShape where
  /-- Its name in messages. -/
  name : String
  keys : List String
  deriving DecidableEq

inductive DecodeError where
  /-- A single value of another kind is needed. -/
  | wrongValue (found : Found) (needed : String) (way : List Location.Part) (origin : Option Origin)
  | notList (found : Found)
  | notRecord (found : Found) (shape : RecordShape)
  /-- A list stands for a record, and has too few items. -/
  | tooShort (length : Nat) (shape : RecordShape)
  | missing (key : String)
  deriving DecidableEq

def Origin.text : Origin → String
  | .file path => path
  | .environment => "the environment"

namespace DecodeError

def message : DecodeError → String
  | .wrongValue found needed way origin =>
    "invalid type: " ++ found.describe ++ ", expected " ++ needed ++
      (if way.isEmpty then "" else " for key `" ++ wayText way ++ "`") ++
      (origin.map (" in " ++ ·.text)).getD ""
  | .notList found => "invalid type: " ++ found.describe ++ ", expected a sequence"
  | .notRecord found shape => "invalid type: " ++ found.describe ++ ", expected struct " ++ shape.name
  | .tooShort length shape =>
    "invalid length " ++ toString length ++ ", expected struct " ++ shape.name ++ " with " ++
      toString shape.keys.length ++ " elements"
  | .missing key => "missing field `" ++ key ++ "`"

/-- The error as seen from the setting around. -/
def inside (part : Location.Part) : DecodeError → DecodeError
  | .wrongValue found needed way origin => .wrongValue found needed (part :: way) origin
  | error => error

end DecodeError

/-! ## Single values -/

abbrev Decoder (α : Type) := Setting → Except DecodeError α

def decodeText : Decoder String
  | .atom _ (.text value) => .ok value
  | .atom _ (.bool value) => .ok (boolText value)
  | .atom _ (.int value) => .ok (toString value)
  | .atom _ (.float value) => .ok value.text
  | setting => .error (.wrongValue setting.found "a string" [] setting.origin)

/-- The truth value that a word says. -/
def boolOfWord? (word : String) : Option Bool :=
  if ["1", "true", "on", "yes"].contains word then some true
  else if ["0", "false", "off", "no"].contains word then some false
  else none

def decodeBool : Decoder Bool
  | .atom _ (.bool value) => .ok value
  | .atom _ (.int value) => .ok (value != 0)
  | .atom _ (.float value) => .ok !value.isZero
  | .atom origin (.text value) =>
    let word := Text.lowercaseString value
    match boolOfWord? word with
    | some value => .ok value
    | none => .error (.wrongValue (.text word) "a boolean" [] origin)
  | setting => .error (.wrongValue setting.found "a boolean" [] setting.origin)

def decodeOptional {α : Type} (decode : Decoder α) : Decoder (Option α)
  | .atom _ .null => .ok none
  | setting => (decode setting).map some

/-! ## Lists -/

def decodeItems {α : Type} (decode : Decoder α) (place : Nat) : List Setting → Except DecodeError (List α)
  | [] => .ok []
  | item :: rest =>
    match decode item with
    | .error error => .error (error.inside (.item place))
    | .ok value => (decodeItems decode (place + 1) rest).map (value :: ·)

def decodeList {α : Type} (decode : Decoder α) : Decoder (List α)
  | .list _ items => decodeItems decode 0 items
  | setting => .error (.notList setting.found)

/-! ## Records -/

/-- The fields of a record, as far as they are given. -/
structure Fields where
  field? : String → Option (Location.Part × Setting)
  /-- The error for a field that is not given. -/
  absent : String → DecodeError

def RecordShape.fields (shape : RecordShape) : Decoder Fields
  | .table origin entries =>
    .ok ⟨fun key => ((Setting.table origin entries).lookup? key).map (.key key, ·), .missing⟩
  | .list _ items =>
    .ok ⟨fun key => (items[shape.keys.idxOf key]?).map (.item (shape.keys.idxOf key), ·),
      fun _ => .tooShort items.length shape⟩
  | setting => .error (.notRecord setting.found shape)

namespace Fields

def read? {α : Type} (fields : Fields) (key : String) (decode : Decoder α) : Except DecodeError (Option α) :=
  match fields.field? key with
  | none => .ok none
  | some (part, setting) =>
    match decode setting with
    | .error error => .error (error.inside part)
    | .ok value => .ok (some value)

def require {α : Type} (fields : Fields) (key : String) : Option α → Except DecodeError α
  | some value => .ok value
  | none => .error (fields.absent key)

end Fields

def decodeGenerator : Decoder GeneratorSettings := fun setting => do
  let fields ← RecordShape.fields ⟨"GeneratorSettings", ["crate_path", "visibility", "derives", "header"]⟩ setting
  let cratePath ← fields.read? "crate_path" decodeText
  let visibility ← fields.read? "visibility" decodeText
  let derives ← fields.read? "derives" (decodeList decodeText)
  let header ← fields.read? "header" decodeBool
  return ⟨← fields.require "crate_path" cratePath, ← fields.require "visibility" visibility,
    ← fields.require "derives" derives, ← fields.require "header" header⟩

def decodeLogging : Decoder LoggingSettings := fun setting => do
  let fields ← RecordShape.fields ⟨"LoggingConfig", ["level", "format"]⟩ setting
  let level ← fields.read? "level" decodeText
  let format ← fields.read? "format" decodeText
  return ⟨← fields.require "level" level, ← fields.require "format" format⟩

def decodeStatement : Decoder ManifestStatement := fun setting => do
  let fields ← RecordShape.fields ⟨"StatementConfig", ["name", "sql", "row", "doc"]⟩ setting
  let name ← fields.read? "name" decodeText
  let sql ← fields.read? "sql" decodeText
  let row ← fields.read? "row" (decodeOptional decodeText)
  let doc ← fields.read? "doc" (decodeOptional decodeText)
  return ⟨← fields.require "name" name, ← fields.require "sql" sql, row.join, doc.join⟩

def decode : Decoder Manifest := fun setting => do
  let fields ← RecordShape.fields ⟨"GeneratorConfig", ["generator", "logging", "statements"]⟩ setting
  let generator ← fields.read? "generator" decodeGenerator
  let logging ← fields.read? "logging" decodeLogging
  let statements ← fields.read? "statements" (decodeList decodeStatement)
  return ⟨← fields.require "generator" generator, ← fields.require "logging" logging, statements.getD []⟩

end TypedStatement.Configuration
