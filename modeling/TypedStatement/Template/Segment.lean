import TypedStatement.Text.ByteRange

/-!
# Segments of a template

A template is SQL text with holes in braces.  Read from left to right it is a list of segments: stretches of
literal text, and holes with their comma separated arguments.
-/

namespace TypedStatement.Template
set_option autoImplicit false

open Text (ByteRange)

/-- One argument of a hole: `value`, or `label: value`. -/
structure Argument where
  label : Option String
  value : String
  /-- From the first character of the label, or else of the value, to the end of the value. -/
  range : ByteRange
  deriving DecidableEq

def Argument.hasLabel (argument : Argument) (label : String) : Bool :=
  argument.label == some label

/-- A hole `{…}` of a template. -/
structure Hole where
  arguments : List Argument
  /-- The hole with its two braces. -/
  range : ByteRange
  deriving DecidableEq

inductive Segment where
  /-- SQL text, with doubled braces written once. -/
  | literal (text : String)
  | hole (hole : Hole)
  deriving DecidableEq

end TypedStatement.Template
