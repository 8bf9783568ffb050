import TypedStatement.Declarations.Tokens
import TypedStatement.Diagnostic

/-!
# Attaching a statement to its host

A struct with named fields, or without any, gets a field for each parameter of the statement, and its row type and
implementation stand after it.  Either all of that is made, or the first problem found is reported.
-/

namespace TypedStatement
set_option autoImplicit false

open Source (Host HostField HostFields Ident Item Path Token)

/-- What is given beside the template. -/
structure ExpandOptions where
  /-- The path of the crate that the declarations use at run time. -/
  library : Path
  /-- The name of the row type, if not the usual one. -/
  row : Option Ident

/-- The usual path of the run-time crate. -/
def usualLibrary : Path := .ofNames true ["pgstmt"]

/-- A statement attached to its host. -/
structure Expansion where
  /-- The host with the fields it has got. -/
  host : Host
  declarations : Declarations

namespace Expansion

def tokens (expansion : Expansion) : List Token :=
  expansion.host.tokens ++ expansion.declarations.rowTypeTokens ++ expansion.declarations.conformance

end Expansion

namespace Source.Host

/-- A field for each parameter, after the fields that are there.  A unit struct turns into one with named fields. -/
def attach (host : Host) : List HostField → Host
  | [] => host
  | first :: rest =>
    let added := first :: rest
    match host.fields with
    | .named fields _ => { host with fields := .named (fields ++ added) false }
    | .unit => { host with fields := .named added false }
    | .tuple _ => host

/-- The names of the fields, without `r#`. -/
def fieldNames (host : Host) : List String :=
  host.fields.toList.map (·.name.name)

end Source.Host

/-- The struct that the item is, if it can carry a statement. -/
def acceptableHost (item : Item) : Except StatementError Host :=
  match item with
  | .other introducer _ => .error (.invalidDeclaration introducer)
  | .struct host =>
    if !host.parameters.isEmpty then .error (.unsupportedDeclaration .generic)
    else
      match host.fields with
      | .tuple _ => .error (.unsupportedDeclaration .tuple)
      | _ => .ok host

/-- The first parameter that has the name of a field. -/
def clash? (names : List String) (binds : List Bind) : Option Bind :=
  binds.find? fun bind => names.contains bind.name

/-- Attaches a template to an acceptable host. -/
def expandHost (host : Host) (template : String) (options : ExpandOptions) : Except StatementError Expansion :=
  match compile template with
  | .error error => .error error
  | .ok model =>
    match Declarations.emit model (.ofHost host.name host.visibility options.library options.row) with
    | .error error => .error error
    | .ok declarations =>
      match clash? host.fieldNames model.binds with
      | some bind => .error (.duplicateField bind.name .bind (some bind.range))
      | none => .ok ⟨host.attach declarations.hostFields, declarations⟩

def expandItem (item : Item) (template : String) (options : ExpandOptions) : Except StatementError Expansion :=
  match acceptableHost item with
  | .error error => .error error
  | .ok host => expandHost host template options

/-- The tokens that an item with a template stands for, or the problem that is reported. -/
def expand (item : Item) (template : String) (options : ExpandOptions) : Except Diagnostic (List Token) :=
  match expandItem item template options with
  | .error error => .error error.diagnostic
  | .ok expansion => .ok expansion.tokens

/-- Expands an item; a problem is added to the diagnostics, and the item stays as it is. -/
def expandInto (diagnostics : List Diagnostic) (item : Item) (template : String) (options : ExpandOptions) :
    List Token × List Diagnostic :=
  match expand item template options with
  | .ok tokens => (tokens, diagnostics)
  | .error diagnostic => (item.tokens, diagnostics ++ [diagnostic])

end TypedStatement
