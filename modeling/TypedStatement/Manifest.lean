/-!
# Manifests

A manifest lists statements, with settings for the module that is generated from them and for logging.
-/

namespace TypedStatement
set_option autoImplicit false

/-- How the module is generated. -/
structure GeneratorSettings where
  /-- The path of the crate that the module uses at run time. -/
  cratePath : String
  /-- The visibility of everything that is declared. -/
  visibility : String
  /-- What the structs of statements derive. -/
  derives : List String
  /-- Whether the module begins with a line that says that it is generated. -/
  header : Bool
  deriving DecidableEq

structure LoggingSettings where
  level : String
  format : String
  deriving DecidableEq

structure ManifestStatement where
  /-- The name of the statement; the struct has it in camel case. -/
  name : String
  /-- The template. -/
  sql : String
  /-- The name of the row type, if not the usual one. -/
  row : Option String
  /-- The documentation of the struct. -/
  doc : Option String
  deriving DecidableEq

structure Manifest where
  generator : GeneratorSettings
  logging : LoggingSettings
  statements : List ManifestStatement
  deriving DecidableEq

/-- The settings that hold unless others are given. -/
def Manifest.default : Manifest :=
  ⟨⟨"::pgstmt", "pub", ["Debug", "Clone"], true⟩, ⟨"info", "pretty"⟩, []⟩

end TypedStatement
