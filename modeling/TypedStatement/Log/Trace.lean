import TypedStatement.Generator.Outcome
import TypedStatement.Log.Event
import TypedStatement.Text.Escape

/-!
# What is logged about statements

A template is traced segment by segment, up to the first hole that cannot be classified.  After that come events for the
compiled template and the expansion, and one for the statement as a whole.
-/

namespace TypedStatement
set_option autoImplicit false

namespace Log

open Template (Segment)

/-! ## Values in full -/

def recordText (name : String) (fields : List (String × String)) : String :=
  name ++ " \x7b " ++ String.intercalate ", " (fields.map fun (key, value) => key ++ ": " ++ value) ++ " \x7d"

def typeText (type : TypeRef) : String :=
  recordText "TypeRef" [("name", Text.quoted type.name), ("scalar", type.scalar.label),
    ("optional", if type.optional then "true" else "false")]

def rangeText (range : Text.ByteRange) : String :=
  toString range.start ++ ".." ++ toString range.stop

def aliasText : Option String → String
  | none => "None"
  | some name => "Some(" ++ Text.quoted name ++ ")"

def classifiedText : Classified → String
  | .column column =>
    "Column(" ++ recordText "Column" [("name", Text.quoted column.name), ("ty", typeText column.type),
      ("alias", aliasText column.aliasName), ("range", rangeText column.range)] ++ ")"
  | .bind bind =>
    "Bind(" ++ recordText "Bind" [("name", Text.quoted bind.name), ("ty", typeText bind.type),
      ("range", rangeText bind.range)] ++ ")"

/-! ## Templates -/

def modelTarget : String := "pgstmt_core::model"

/-- The event for a segment, unless it is a hole that cannot be classified. -/
def segmentEvent? : Segment → Option Event
  | .literal text => some ⟨.trace, modelTarget, "literal segment", [("len", .nat text.utf8ByteSize)]⟩
  | .hole hole =>
    match classify hole with
    | .ok classified =>
      some ⟨.trace, modelTarget, "classified interpolation", [("classified", .text (classifiedText classified))]⟩
    | .error _ => none

/-- The events for segments, up to the first that has none. -/
def segmentEvents : List Segment → List Event
  | [] => []
  | segment :: rest =>
    match segmentEvent? segment with
    | none => []
    | some event => event :: segmentEvents rest

def compiledEvent (model : Model) : Event :=
  ⟨.debug, modelTarget, "compiled statement template",
    [("columns", .nat model.columns.length), ("binds", .nat model.binds.length)]⟩

def templateEvents (template : String) : List Event :=
  match Template.scan template with
  | .error _ => []
  | .ok segments =>
    segmentEvents segments ++
      match compile template with
      | .ok model => [compiledEvent model]
      | .error _ => []

/-! ## Statements -/

def expandedEvent (expansion : Expansion) : Event :=
  let target := expansion.declarations.target
  ⟨.debug, "pgstmt_core::expand", "expanded statement",
    [("statement", .text target.host.text), ("row", .text target.row.text),
      ("sql", .text expansion.declarations.sql)]⟩

def generateTarget : String := "pgstmt_gen::generate"

/-- The events for a statement that was tried. -/
def attemptEvents (attempt : Attempt) : List Event :=
  let statement := attempt.named.statement
  templateEvents statement.sql ++
    match attempt.result with
    | .ok expansion =>
      [expandedEvent expansion, ⟨.info, generateTarget, "generated statement", [("statement", .text statement.name)]⟩]
    | .error error =>
      [⟨.debug, generateTarget, "statement rejected",
        [("statement", .text statement.name), ("id", .text error.diagnosticId.text)]⟩]

/-- The events for the statements of a manifest, up to the first whose names cannot be had. -/
def generateEvents (generator : Generator) (statements : List ManifestStatement) : List Event :=
  (nameStatements [] statements).1.flatMap fun named => attemptEvents (generator.attempt named)

end Log
end TypedStatement
