import TypedStatement.Generator.Outcome
import TypedStatement.Json.Text

/-!
# Reports of rejected statements

A report names every statement that could not be generated: as text that points into the templates, or as one JSON
record a line.
-/

namespace TypedStatement
set_option autoImplicit false

namespace Report

/-! ## For people -/

/-- Where a diagnostic points: the manifest, and the statement in it. -/
def origin (manifest : String) (failure : Failure) : String :=
  manifest ++ "#" ++ failure.statement

/-- The last line: how many statements there are. -/
def summary (count : Nat) : String :=
  "error: could not generate " ++ toString count ++ " statement" ++ (if count = 1 then "" else "s") ++ "\n"

/-- The diagnostics shown in their templates, each with an empty line after it, and the summary. -/
def human (manifest : String) (failures : List Failure) : String :=
  String.join (failures.map fun failure =>
    failure.diagnostic.render (origin manifest failure) failure.template ++ "\n") ++ summary failures.length

/-! ## For programs -/

def rangeDatum (range : Text.ByteRange) : Datum :=
  .table [("start", .nat range.start), ("end", .nat range.stop)]

def fixItDatum (fixIt : FixIt) : Datum :=
  .table [("message", .text fixIt.message), ("original", .text fixIt.replaced),
    ("replacement", .text fixIt.replacement)]

def record (manifest : String) (failure : Failure) : Datum :=
  let diagnostic := failure.diagnostic
  .table [("manifest", .text manifest), ("statement", .text failure.statement), ("id", .text diagnostic.id.text),
    ("message", .text diagnostic.message), ("severity", .text diagnostic.severity.word),
    ("range", .optional rangeDatum diagnostic.range), ("note", .optional .text diagnostic.note),
    ("fix_it", .optional fixItDatum diagnostic.fixIt)]

def json (manifest : String) (failures : List Failure) : String :=
  String.join (failures.map fun failure => Json.write (record manifest failure) ++ "\n")

end Report
end TypedStatement
