import TypedStatement.Template.Fault

/-!
# What can be wrong with a statement

The causes for which a template or its host declaration is refused, where they point into the template, and how
they are said.
-/

namespace TypedStatement
set_option autoImplicit false

open Text (ByteRange)

/-- Why a declaration that is a structure still cannot carry a statement. -/
inductive UnsupportedHost where
  /-- It has generic parameters. -/
  | generic
  /-- Its fields have no names. -/
  | tuple
  /-- A reason found elsewhere and put into words there. -/
  | described (message : String)
  deriving DecidableEq

def UnsupportedHost.message : UnsupportedHost → String
  | .generic => "'#[statement]' does not support generic parameters"
  | .tuple => "'#[statement]' requires a struct with named fields or a unit struct"
  | .described message => message

inductive StatementError where
  /-- The declaration is not a structure; `introducer` is the keyword that introduces it. -/
  | invalidDeclaration (introducer : Option String)
  /-- The type of a hole is not one that a statement can use. -/
  | unprocessableHole (name : String) (kind : HoleKind) (range : ByteRange)
  | malformedTemplate (malformed : Template.Malformed)
  /-- The name of a column or parameter cannot be the name of a field. -/
  | invalidFieldName (name : String) (kind : HoleKind) (range : ByteRange)
  /-- Two columns, two parameters, or a parameter and a field of the declaration have one name. -/
  | duplicateField (name : String) (kind : HoleKind) (range : Option ByteRange)
  | unsupportedDeclaration (reason : UnsupportedHost)
  deriving DecidableEq

namespace StatementError

def message : StatementError → String
  | .invalidDeclaration _ => "'#[statement]' can only be applied to struct types"
  | .unprocessableHole name kind _ => "Cannot parse type for " ++ kind.word ++ " with name '" ++ name ++ "'"
  | .malformedTemplate malformed => "malformed statement template: " ++ malformed.fault.message
  | .invalidFieldName name kind _ => "'" ++ name ++ "' is not a valid field name for " ++ kind.word
  | .duplicateField name kind _ => "duplicate " ++ kind.word ++ " field '" ++ name ++ "'"
  | .unsupportedDeclaration reason => reason.message

/-- The stretch of the template that the error is about. -/
def range? : StatementError → Option ByteRange
  | .invalidDeclaration _ => none
  | .unprocessableHole _ _ range => some range
  | .malformedTemplate malformed => some malformed.range
  | .invalidFieldName _ _ range => some range
  | .duplicateField _ _ range => range
  | .unsupportedDeclaration _ => none

end StatementError
end TypedStatement
