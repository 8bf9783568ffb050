import TypedStatement.Text.ByteRange

/-!
# Faults of a template

What can be wrong with the text of a template or of one hole, and how it is said.
-/

namespace TypedStatement

/-- What a hole stands for: a column of the result, or a parameter of the statement. -/
inductive HoleKind where
  | column
  | bind
  deriving DecidableEq

def HoleKind.word : HoleKind → String
  | .column => "column"
  | .bind => "bind"

namespace Template
set_option autoImplicit false

inductive Fault where
  /-- A closing brace outside every hole that is not doubled. -/
  | unmatchedBrace
  /-- An opening brace inside a hole. -/
  | nestedBrace
  /-- The template ends inside a hole, in a quoted part. -/
  | unterminatedString
  /-- The template ends inside a hole. -/
  | unterminatedHole
  /-- A hole of white space alone. -/
  | emptyHole
  /-- A blank argument that is not the one after a trailing comma. -/
  | emptyArgument
  /-- A label and its colon with nothing after them. -/
  | missingValue (label : String)
  /-- A hole with fewer than two arguments. -/
  | missingNameOrType
  /-- The name is neither a string literal nor text without white space and quotes. -/
  | unreadableName (kind : HoleKind) (found : String)
  /-- A third argument of a column that is not labelled `as`. -/
  | unlabelledAlias (column found : String)
  /-- An alias that is the empty text. -/
  | emptyAlias (column : String)
  /-- The alias is neither a string literal nor text without white space and quotes. -/
  | unreadableAlias (column found : String)
  /-- A fourth argument of a column. -/
  | extraArgument (column found : String)
  /-- A fault found elsewhere and put into words there. -/
  | described (message : String)
  deriving DecidableEq

def Fault.message : Fault → String
  | .unmatchedBrace => "unmatched `\x7d`; write `\x7d\x7d` for a literal brace"
  | .nestedBrace => "unexpected `\x7b` inside an interpolation"
  | .unterminatedString => "unterminated string literal inside an interpolation"
  | .unterminatedHole => "unterminated interpolation; write `\x7b\x7b` for a literal brace"
  | .emptyHole => "empty interpolation"
  | .emptyArgument => "empty argument in interpolation"
  | .missingValue label => "missing value after `" ++ label ++ ":`"
  | .missingNameOrType => "expected a name and a type, e.g. `\x7bid, Uuid\x7d` or `\x7bbind: id, Uuid\x7d`"
  | .unreadableName kind found =>
    "expected the " ++ kind.word ++ " name as a string literal or bare SQL text, found `" ++ found ++ "`"
  | .unlabelledAlias column found =>
    "unexpected argument `" ++ found ++ "` for column '" ++ column ++ "'; aliases are written `as: alias`"
  | .emptyAlias column => "alias for column '" ++ column ++ "' must not be empty"
  | .unreadableAlias column found =>
    "expected the alias for column '" ++ column ++
      "' as a string literal or bare SQL text, found `" ++ found ++ "`"
  | .extraArgument column found => "unexpected argument `" ++ found ++ "` for column '" ++ column ++ "'"
  | .described message => message

/-- A fault and the stretch of the template it is about. -/
structure Malformed where
  fault : Fault
  range : Text.ByteRange
  deriving DecidableEq

end Template
end TypedStatement
