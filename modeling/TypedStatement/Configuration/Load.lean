import TypedStatement.Configuration.Decode
import TypedStatement.Configuration.KeyPath
import TypedStatement.Configuration.Variables
import TypedStatement.Files
import TypedStatement.Json.Reader
import TypedStatement.Toml.Document

/-!
# Loading a manifest

The settings of a manifest are the built-in ones, then those of the file, then those of the environment.  The file is in
one of two formats, which the end of its name says.
-/

namespace TypedStatement.Configuration
set_option autoImplicit false

/-! ## Formats -/

inductive Format where
  | toml
  | json
  deriving DecidableEq

/-- The end of the names of files in this format. -/
def Format.extension : Format → String
  | .toml => "toml"
  | .json => "json"

def formats : List Format := [.toml, .json]

/-- The layer of settings that a text in a format is. -/
def Format.read? (format : Format) (text : String) : Option (List (String × Datum)) :=
  match format with
  | .toml => Toml.read? text
  | .json =>
    match Json.read? text with
    | some (.table entries) => some entries
    | _ => none

/-! ## Paths -/

/-- A path in its parts, without those that stay in place. -/
def plainParts (path : String) : List String :=
  (FileTree.parts path).filter fun part => part != "" && part != "."

/-- What follows the last point of a name, unless nothing is before the point. -/
def extensionOf (name : String) : String :=
  match (Text.pieces '.' name).reverse with
  | last :: first :: rest => if rest.isEmpty ∧ first = "" then "" else last
  | _ => ""

/-- A path from the working directory as it is shown, or from the root. -/
def joined (directory path : String) : String :=
  if path.toList.head? = some '/' then path else directory ++ "/" ++ path

/-- The way from one place to another, up and down. -/
def wayFrom : List String → List String → List String
  | first :: up, next :: down =>
    if first = next then wayFrom up down else (first :: up).map (fun _ => "..") ++ next :: down
  | up, down => up.map (fun _ => "..") ++ down

/-- A path as messages name it: from the working directory. -/
def shownPath (directory path : String) : String :=
  if path.toList.head? = some '/' then
    String.intercalate "/" (wayFrom (plainParts directory) (plainParts path))
  else String.intercalate "/" (plainParts path)

/-- The path with the extension of a format added to its last name. -/
def withExtension (path : String) (format : Format) : Option String :=
  match (plainParts path).reverse with
  | [] => none
  | name :: before =>
    if name = ".." then none
    else
      let start := if path.toList.head? = some '/' then "/" else ""
      some (start ++ String.intercalate "/" (before.reverse ++ [name ++ "." ++ format.extension]))

/-! ## Files -/

inductive LoadError where
  | settings (error : DecodeError)
  /-- The name of the file does not say its format. -/
  | unknownFormat (path : String)
  | notFound (path : String)
  /-- The file is not in its format. -/
  | unreadable (path : String)
  deriving DecidableEq

def LoadError.message : LoadError → String
  | .settings error => error.message
  | .unknownFormat path => "configuration file \"" ++ path ++ "\" is not of a registered file format"
  | .notFound path => "configuration file \"" ++ path ++ "\" not found"
  | .unreadable path => "invalid syntax in " ++ path

/-- A manifest file that was found. -/
structure ManifestFile where
  path : String
  format : Format
  content : String

/-- Paths beside the given one at which the manifest may be. -/
def candidates (path : String) : List (Format × String) :=
  formats.filterMap fun format => (withExtension path format).map (format, ·)

/-- The manifest file that a path stands for: the file there, or one whose name has an extension more. -/
def findFile (directory : String) (kind? : String → Option FileKind) (path : String) :
    Except LoadError ManifestFile :=
  match kind? path with
  | some (.file content) =>
    match formats.find? (·.extension == extensionOf (((plainParts path).getLast?).getD "")) with
    | some format => .ok ⟨path, format, content⟩
    | none => .error (.unknownFormat (joined directory path))
  | _ =>
    let found := (candidates path).filterMap fun (format, path) =>
      match kind? path with
      | some (.file content) => some (⟨path, format, content⟩ : ManifestFile)
      | _ => none
    match found with
    | file :: _ => .ok file
    | [] => .error (.notFound path)

/-- The layer of settings that a file is.  A byte order mark at its start does not count. -/
def fileLayer (directory : String) (file : ManifestFile) : Except LoadError (List (String × Setting)) :=
  let path := shownPath directory file.path
  let text := String.ofList (Toml.withoutMark file.content.toList)
  match file.format.read? text with
  | none => .error (.unreadable path)
  | some entries => .ok (Setting.ofEntries (some (.file path)) entries)

/-! ## Layers -/

/-- The manifest that layers of settings are: those of a file, if there is one, and those of variables. -/
def ofLayers (file : Option (List (String × Setting))) (environment : List (String × String)) :
    Except DecodeError Manifest :=
  decode ((defaults.layer (file.getD [])).layer (ofVariables environment))

/-- The manifest at a path, under the variables.  Without a file there the manifest has no statements. -/
def load (directory : String) (kind? : String → Option FileKind) (environment : List (String × String))
    (path : String) : Except LoadError Manifest :=
  match kind? path with
  | none => (ofLayers none environment).mapError .settings
  | some _ =>
    match findFile directory kind? path with
    | .error error => .error error
    | .ok file =>
      match fileLayer directory file with
      | .error error => .error error
      | .ok layer => (ofLayers (some layer) environment).mapError .settings

end TypedStatement.Configuration
