import TypedStatement.Generator.Module

/-!
# The outcome of generation

Generation is all or nothing.  The names of all statements are checked first; then every statement is expanded on its
own.  If all of them expand, the outcome is a module with all of them in the order of the manifest; otherwise it is
the list of those that do not, each with its diagnostic.
-/

namespace TypedStatement
set_option autoImplicit false

open Source (Item)

/-- A statement that could not be generated. -/
structure Failure where
  /-- The name of the statement. -/
  statement : String
  template : String
  diagnostic : Diagnostic
  deriving DecidableEq

inductive Outcome where
  /-- The text of the module. -/
  | module (text : String)
  | rejected (failures : List Failure)
  deriving DecidableEq

/-- A statement, and what its expansion gave. -/
structure Attempt where
  named : NamedStatement
  result : Except StatementError Expansion

namespace Attempt

def expanded? (attempt : Attempt) : Option Generator.ExpandedStatement :=
  match attempt.result with
  | .ok expansion => some ⟨attempt.named, expansion⟩
  | .error _ => none

/-- What is wrong with the statement, if something is. -/
def failure? (attempt : Attempt) : Option Failure :=
  match attempt.result with
  | .ok _ => none
  | .error error => some ⟨attempt.named.statement.name, attempt.named.statement.sql, error.diagnostic⟩

end Attempt

namespace Generator

variable (generator : Generator)

def attempt (named : NamedStatement) : Attempt :=
  ⟨named, generator.expandStatement named⟩

/-- The module with all the statements.  Their declarations must read as items. -/
def module (statements : List ExpandedStatement) : Except GenerateError String :=
  match Item.listOfTokens? (statements.flatMap (·.expansion.tokens)) with
  | .error cause => .error (.invalidModule cause)
  | .ok _ => .ok (generator.moduleText statements)

/-- The outcome for statements that were all expanded. -/
def conclude (attempts : List Attempt) : Except GenerateError Outcome :=
  match attempts.filterMap Attempt.failure? with
  | [] => (generator.module (attempts.filterMap Attempt.expanded?)).map .module
  | first :: rest => .ok (.rejected (first :: rest))

def generate (statements : List ManifestStatement) : Except GenerateError Outcome :=
  match nameStatements [] statements with
  | (_, some error) => .error error
  | (named, none) => generator.conclude (named.map generator.attempt)

end Generator
end TypedStatement
