import TypedStatement.StatementError
import TypedStatement.Template.Segment
import TypedStatement.TypeRef

/-!
# What a hole stands for

A hole whose first argument is labelled `bind` is a parameter of the statement, every other hole a column of its
result.  The second argument is the type.  A column may have an alias as its third argument; what follows the type
of a parameter is ignored.
-/

namespace TypedStatement
set_option autoImplicit false

open Text (ByteRange)
open Template (Argument Hole)

/-- A column of the result. -/
structure Column where
  /-- A column name or an expression, as the query has it. -/
  name : String
  type : TypeRef
  aliasName : Option String
  range : ByteRange
  deriving DecidableEq

/-- The name of the row field: the alias, or else the name. -/
def Column.fieldName (column : Column) : String :=
  column.aliasName.getD column.name

/-- A parameter of the statement. -/
structure Bind where
  name : String
  type : TypeRef
  range : ByteRange
  deriving DecidableEq

inductive Classified where
  | column (column : Column)
  | bind (bind : Bind)
  deriving DecidableEq

/-- The text that an argument gives: the value of a string literal, or bare text without white space and quotes. -/
def literalText? (value : String) : Option String :=
  if value.toList.head? = some '"' then
    match Source.tokens? value with
    | some [.literal literal] => Source.StringLiteral.value? literal
    | _ => none
  else if value.toList.any fun c => Text.isWhiteSpace c || c == '"' then none
  else some value

def malformed (fault : Template.Fault) (range : ByteRange) : StatementError :=
  .malformedTemplate ⟨fault, range⟩

/-- The alias that the third argument of a column gives. -/
def classifyAlias (column : String) (argument : Argument) : Except StatementError String :=
  if argument.hasLabel "as" then
    match literalText? argument.value with
    | some name =>
      if name.isEmpty then .error (malformed (.emptyAlias column) argument.range) else .ok name
    | none => .error (malformed (.unreadableAlias column argument.value) argument.range)
  else .error (malformed (.unlabelledAlias column argument.value) argument.range)

def classifyColumn (range : ByteRange) (name : String) (type : TypeRef) :
    List Argument → Except StatementError Column
  | [] => .ok ⟨name, type, none, range⟩
  | third :: later =>
    match classifyAlias name third with
    | .error error => .error error
    | .ok aliasName =>
      match later with
      | [] => .ok ⟨name, type, some aliasName, range⟩
      | fourth :: _ => .error (malformed (.extraArgument name fourth.value) fourth.range)

def classify (hole : Hole) : Except StatementError Classified :=
  match hole.arguments with
  | first :: second :: later =>
    let kind : HoleKind := if first.hasLabel "bind" then .bind else .column
    let name? := literalText? first.value
    match TypeRef.parse second.value with
    | none => .error (.unprocessableHole (name?.getD "<invalid>") kind hole.range)
    | some type =>
      match name? with
      | none => .error (malformed (.unreadableName kind first.value) first.range)
      | some name =>
        match kind with
        | .bind => .ok (.bind ⟨name, type, hole.range⟩)
        | .column => (classifyColumn hole.range name type later).map .column
  | _ => .error (malformed .missingNameOrType hole.range)

end TypedStatement
