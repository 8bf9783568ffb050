import TypedStatement.Declarations
import TypedStatement.Generator.Settings
import TypedStatement.Text.CamelCase

/-!
# Names of generated types

Every statement declares a struct and a row type.  Their names are read, and checked against all names taken before, in
the order of the manifest, whatever the templates are.
-/

namespace TypedStatement
set_option autoImplicit false

open Source (FragmentError Ident)

inductive GenerateError where
  /-- The name of a statement does not make the name of a struct. -/
  | structName (statement : String) (cause : FragmentError)
  | rowName (row statement : String) (cause : FragmentError)
  /-- The name of a struct is taken. -/
  | structClash (struct statement : String)
  /-- The name of a row type is taken. -/
  | rowClash (row statement : String)
  /-- The generated declarations cannot be read. -/
  | invalidModule (cause : FragmentError)
  deriving DecidableEq

namespace GenerateError

def message : GenerateError → String
  | .structName statement _ => "statement name `" ++ statement ++ "` does not make a valid struct name"
  | .rowName row statement _ => "invalid row name `" ++ row ++ "` for `" ++ statement ++ "`"
  | .structClash struct statement =>
    "struct `" ++ struct ++ "` of statement `" ++ statement ++ "` clashes with another generated type"
  | .rowClash row statement =>
    "row type `" ++ row ++ "` of statement `" ++ statement ++ "` clashes with another generated type"
  | .invalidModule _ => "generated code is not a valid module"

def cause? : GenerateError → Option FragmentError
  | .structName _ cause => some cause
  | .rowName _ _ cause => some cause
  | .invalidModule cause => some cause
  | .structClash _ _ => none
  | .rowClash _ _ => none

def chain (error : GenerateError) : String :=
  error.message ++ (error.cause?.map (": " ++ ·.message)).getD ""

end GenerateError

/-- A statement with the names that it declares. -/
structure NamedStatement where
  statement : ManifestStatement
  struct : Ident
  /-- The name of the row type, if one is given. -/
  row : Option Ident

/-- The name of the row type as it is checked, and as it is declared. -/
def NamedStatement.rowText (named : NamedStatement) : String :=
  match named.row with
  | some row => row.text
  | none => named.struct.text ++ "Row"

/-- The row name that a statement gives. -/
def ManifestStatement.rowIdent (statement : ManifestStatement) : Except GenerateError (Option Ident) :=
  match statement.row with
  | none => .ok none
  | some row =>
    match Ident.parse row with
    | .error cause => .error (.rowName row statement.name cause)
    | .ok ident => .ok (some ident)

def ManifestStatement.named (statement : ManifestStatement) : Except GenerateError NamedStatement :=
  match Ident.parse (Text.camelCase statement.name) with
  | .error cause => .error (.structName statement.name cause)
  | .ok struct => statement.rowIdent.map fun row => ⟨statement, struct, row⟩

/-- Names that are both free, as names taken. -/
def NamedStatement.reserve (taken : List String) (named : NamedStatement) : Except GenerateError (List String) :=
  if taken.contains named.struct.text then .error (.structClash named.struct.text named.statement.name)
  else if (named.struct.text :: taken).contains named.rowText then
    .error (.rowClash named.rowText named.statement.name)
  else .ok (named.rowText :: named.struct.text :: taken)

/-- The statements up to the first one whose names cannot be had, and what is wrong with that one. -/
def nameStatements (taken : List String) : List ManifestStatement → List NamedStatement × Option GenerateError
  | [] => ([], none)
  | statement :: rest =>
    match statement.named with
    | .error error => ([], some error)
    | .ok named =>
      match named.reserve taken with
      | .error error => ([], some error)
      | .ok nowTaken =>
        let (later, error) := nameStatements nowTaken rest
        (named :: later, error)

end TypedStatement
