import TypedStatement.Source.StringLiteral
import TypedStatement.Source.Token
import TypedStatement.StatementError

/-!
# Diagnostics

A diagnostic is what is reported about a statement: a stable name of the kind of problem, its message, how severe it is,
where in the template it lies, and perhaps a note and a mechanical repair.  It can be shown as text beside the line of
the template, and as compile errors.
-/

namespace TypedStatement
set_option autoImplicit false

open Text (ByteRange splitAtByte utf8Length)
open Source (Token)

inductive Severity where
  | error
  | warning
  | note
  deriving DecidableEq

def Severity.word : Severity → String
  | .error => "error"
  | .warning => "warning"
  | .note => "note"

/-- One name for each kind of problem. -/
inductive DiagnosticId where
  | invalidDeclaration
  | unprocessableHole
  | malformedTemplate
  | invalidFieldName
  | duplicateField
  | unsupportedDeclaration
  deriving DecidableEq

def DiagnosticId.text : DiagnosticId → String
  | .invalidDeclaration => "statement-invalid-declaration"
  | .unprocessableHole => "unprocessable-interpolation"
  | .malformedTemplate => "malformed-template"
  | .invalidFieldName => "invalid-field-name"
  | .duplicateField => "duplicate-field"
  | .unsupportedDeclaration => "unsupported-declaration"

/-- A mechanical edit: one piece of source replaced by another. -/
structure FixIt where
  message : String
  replaced : String
  replacement : String
  deriving DecidableEq

structure Diagnostic where
  id : DiagnosticId
  message : String
  severity : Severity
  /-- Where in the template the problem lies. -/
  range : Option ByteRange
  note : Option String
  fixIt : Option FixIt
  deriving DecidableEq

/-! ## From errors -/

namespace StatementError

def diagnosticId : StatementError → DiagnosticId
  | .invalidDeclaration _ => .invalidDeclaration
  | .unprocessableHole _ _ _ => .unprocessableHole
  | .malformedTemplate _ => .malformedTemplate
  | .invalidFieldName _ _ _ => .invalidFieldName
  | .duplicateField _ _ _ => .duplicateField
  | .unsupportedDeclaration _ => .unsupportedDeclaration

/-- A column whose name cannot be the name of a field needs an alias. -/
def note? : StatementError → Option String
  | .invalidFieldName _ .column _ =>
    some "name the field with an alias, e.g. `\x7bcount(*), i64, as: total\x7d`"
  | _ => none

/-- The wrong word in front of a declaration can be replaced. -/
def fixIt? : StatementError → Option FixIt
  | .invalidDeclaration (some introducer) =>
    some ⟨"Replace '" ++ introducer ++ "' with 'struct'", introducer, "struct"⟩
  | _ => none

def diagnostic (error : StatementError) : Diagnostic :=
  ⟨error.diagnosticId, error.message, .error, error.range?, error.note?, error.fixIt?⟩

end StatementError

/-! ## Where a range lies -/

/-- A place in a text, as it is shown. -/
structure Location where
  /-- The number of the line, counted from one. -/
  line : Nat
  /-- The number of the character in its line, counted from one. -/
  column : Nat
  /-- The number of characters that are marked. -/
  width : Nat
  /-- The whole line, without its line break. -/
  text : String
  deriving DecidableEq

/-- The characters up to the next line break. -/
def untilLineBreak (text : List Char) : List Char :=
  text.takeWhile (· != '\n')

/-- The place where a range begins, if that is a character boundary of the text.  What is marked ends with the range, or
with the line if that comes first, and is at least one character. -/
def locate (text : List Char) (range : ByteRange) : Option Location :=
  (splitAtByte range.start text).map fun (before, after) =>
    let front := (untilLineBreak before.reverse).reverse
    let back := untilLineBreak after
    let marked := match splitAtByte (min (range.stop - range.start) (utf8Length back)) back with
      | some (inside, _) => inside.length
      | none => 0
    ⟨before.count '\n' + 1, front.length + 1, max marked 1, String.ofList (front ++ back)⟩

/-! ## Text and compile errors -/

namespace Diagnostic

variable (diagnostic : Diagnostic)

def isError : Bool := diagnostic.severity == .error

def headline : String :=
  diagnostic.severity.word ++ "[" ++ diagnostic.id.text ++ "]: " ++ diagnostic.message

def repeated (c : Char) (n : Nat) : String :=
  String.ofList (List.replicate n c)

/-- The lines that show a place, with the number of its line in the margin. -/
def locationLines (origin : String) (location : Location) : List String :=
  let number := toString location.line
  let margin := repeated ' ' number.length
  [margin ++ "--> " ++ origin ++ ":" ++ number ++ ":" ++ toString location.column,
   margin ++ " |",
   number ++ " | " ++ location.text,
   margin ++ " | " ++ repeated ' ' (location.column - 1) ++ repeated '^' location.width]

/-- The lines of the diagnostic, shown against the template it is about. -/
def lines (origin template : String) : List String :=
  [diagnostic.headline] ++
    (match diagnostic.range.bind (locate template.toList) with
      | some location => locationLines origin location
      | none => [" --> " ++ origin]) ++
    (diagnostic.note.map ("  = note: " ++ ·)).toList ++
    (diagnostic.fixIt.map ("  = help: " ++ ·.message)).toList

/-- The diagnostic as text, each line ended by a line break. -/
def render (origin template : String) : String :=
  String.join ((diagnostic.lines origin template).map (· ++ "\n"))

/-- The messages of the compile errors: the message itself, the note, and the help. -/
def errorMessages : List String :=
  [diagnostic.message] ++ (diagnostic.note.map ("note: " ++ ·)).toList ++
    (diagnostic.fixIt.map ("help: " ++ ·.message)).toList

end Diagnostic

def compileError (message : String) : List Token :=
  Token.pathSeparator ++ [Token.word "core"] ++ Token.pathSeparator ++
    [Token.word "compile_error", Token.mark '!', Token.braces [.literal (Source.StringLiteral.encode message)]]

def Diagnostic.compileErrors (diagnostic : Diagnostic) : List Token :=
  diagnostic.errorMessages.flatMap compileError

end TypedStatement
