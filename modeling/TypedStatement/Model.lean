import TypedStatement.Classification
import TypedStatement.Template.Scan

/-!
# The model of a statement

A statement is compiled by adding its segments one after the other to a model that starts empty: the text of the
query grows at its end, columns and parameters are collected in order, and every parameter is written as `$k` with
its number, counted from one.
-/

namespace TypedStatement
set_option autoImplicit false

open Template (Segment)

/-- A compiled statement. -/
structure Model where
  sql : String
  columns : List Column
  binds : List Bind
  deriving DecidableEq

namespace Model

/-- The statement without text. -/
def empty : Model := ⟨"", [], []⟩

def pushLiteral (model : Model) (text : String) : Model :=
  { model with sql := model.sql ++ text }

/-- Adds a column, written `name` or `name AS alias`. -/
def pushColumn (model : Model) (column : Column) : Model :=
  { model with
    sql := model.sql ++ column.name ++ (match column.aliasName with
      | some name => " AS " ++ name
      | none => "")
    columns := model.columns ++ [column] }

/-- Adds a parameter, written as `$` and its number. -/
def pushBind (model : Model) (bind : Bind) : Model :=
  { model with
    sql := model.sql ++ "$" ++ toString (model.binds.length + 1)
    binds := model.binds ++ [bind] }

/-- Adds what a hole stands for. -/
def push (model : Model) : Classified → Model
  | .column column => model.pushColumn column
  | .bind bind => model.pushBind bind

def returnsRows (model : Model) : Bool :=
  !model.columns.isEmpty

/-- Adds segments in order; the first hole that stands for nothing is reported. -/
def extend (model : Model) : List Segment → Except StatementError Model
  | [] => .ok model
  | .literal text :: rest => (model.pushLiteral text).extend rest
  | .hole hole :: rest =>
    match classify hole with
    | .error error => .error error
    | .ok classified => (model.push classified).extend rest

def build (segments : List Segment) : Except StatementError Model :=
  empty.extend segments

end Model

def compile (template : String) : Except StatementError Model :=
  match Template.scan template with
  | .error malformed => .error (.malformedTemplate malformed)
  | .ok segments => Model.build segments

end TypedStatement
