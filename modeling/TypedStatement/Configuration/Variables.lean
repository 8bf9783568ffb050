import TypedStatement.Configuration.Setting
import TypedStatement.Number.Literal
import TypedStatement.Text.Lines

/-!
# Settings in the environment

A variable with the prefix `PGSTMT__` is a setting; two underscores separate the keys of its path.
-/

namespace TypedStatement.Configuration
set_option autoImplicit false

/-- How the names of variables begin, in lower case. -/
def variableStart : List Char := "pgstmt__".toList

/-- The one setting that is a list, with commas between its items. -/
def listPath : String := "generator.derives"

/-- Text with every pair of underscores replaced by a point. -/
def pointed : List Char → List Char
  | '_' :: '_' :: rest => '.' :: pointed rest
  | c :: rest => c :: pointed rest
  | [] => []

/-- The path that the name of a variable says, if it is a setting. -/
def variablePath? (name : String) : Option String :=
  let name := (Text.lowercaseString name).toList
  if variableStart.isPrefixOf name then some (String.ofList (pointed (name.drop variableStart.length)))
  else none

/-- The value of a variable as text says it: a truth value, a number, a list, or else the text. -/
def variableDatum (path text : String) : Datum :=
  let lower := Text.lowercaseString text
  if lower = "true" then .atom (.bool true)
  else if lower = "false" then .atom (.bool false)
  else
    match Number.intOf? text.toList with
    | some value => .atom (.int value)
    | none =>
      match Number.doubleOf? text.toList with
      | some value => .atom (.float value)
      | none => if path = listPath then .list ((Text.pieces ',' text).map .text) else .text text

/-- The layer of settings that variables give: names and values. -/
def ofVariables (environment : List (String × String)) : List (String × Setting) :=
  environment.filterMap fun (name, text) => (variablePath? name).map fun path =>
    (path, .ofDatum (some .environment) (variableDatum path text))

end TypedStatement.Configuration
