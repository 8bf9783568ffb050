import TypedStatement.Manifest
import TypedStatement.Source.Grammar

/-!
# Settings of the generator

The settings of a manifest are texts; the generator needs the paths and the visibility that they say.
-/

namespace TypedStatement
set_option autoImplicit false

open Source (FragmentError Path Visibility)

/-- The settings, read. -/
structure Generator where
  library : Path
  visibility : Visibility
  derives : List Path
  header : Bool

inductive SettingsError where
  | cratePath (text : String) (cause : FragmentError)
  | visibility (text : String) (cause : FragmentError)
  | derive (text : String) (cause : FragmentError)
  deriving DecidableEq

namespace SettingsError

def message : SettingsError → String
  | .cratePath text _ => "invalid generator.crate_path `" ++ text ++ "`"
  | .visibility text _ => "invalid generator.visibility `" ++ text ++ "`"
  | .derive text _ => "invalid derive `" ++ text ++ "`"

def cause : SettingsError → FragmentError
  | .cratePath _ cause => cause
  | .visibility _ cause => cause
  | .derive _ cause => cause

def chain (error : SettingsError) : String :=
  error.message ++ ": " ++ error.cause.message

end SettingsError

/-- The paths that the texts say; the first that is no path is reported. -/
def readDerives : List String → Except SettingsError (List Path)
  | [] => .ok []
  | text :: rest =>
    match Path.parse text with
    | .error cause => .error (.derive text cause)
    | .ok path => (readDerives rest).map (path :: ·)

def Generator.ofSettings (settings : GeneratorSettings) : Except SettingsError Generator :=
  match Path.parse settings.cratePath with
  | .error cause => .error (.cratePath settings.cratePath cause)
  | .ok library =>
    match Visibility.parse settings.visibility with
    | .error cause => .error (.visibility settings.visibility cause)
    | .ok visibility =>
      (readDerives settings.derives).map fun derives => ⟨library, visibility, derives, settings.header⟩

end TypedStatement
