import TypedStatement.Json.Text
import TypedStatement.Text.Casing

/-!
# Log events

An event says what the program has done, with a few values.  Events below a level are not logged.
-/

namespace TypedStatement
set_option autoImplicit false

namespace Log

inductive Level where
  | trace
  | debug
  | info
  | warn
  | error
  deriving DecidableEq

namespace Level

def rank : Level → Nat
  | .trace => 0
  | .debug => 1
  | .info => 2
  | .warn => 3
  | .error => 4

def word : Level → String
  | .trace => "TRACE"
  | .debug => "DEBUG"
  | .info => "INFO"
  | .warn => "WARN"
  | .error => "ERROR"

/-- The level that a word names, in any case; another word counts as `info`. -/
def ofName (name : String) : Level :=
  match Text.lowercaseString name with
  | "trace" => .trace
  | "debug" => .debug
  | "warn" => .warn
  | "error" => .error
  | _ => .info

end Level

structure Event where
  level : Level
  /-- The part of the program that the event is about. -/
  target : String
  message : String
  fields : List (String × Datum)

namespace Event

def isLogged (least : Level) (event : Event) : Bool :=
  least.rank ≤ event.level.rank

def record (event : Event) : Datum :=
  .table [("level", .text event.level.word), ("fields", .table (("message", .text event.message) :: event.fields)),
    ("target", .text event.target)]

def line (event : Event) : String :=
  String.intercalate ", " ((event.level.word ++ " " ++ event.target ++ ": " ++ event.message) ::
    event.fields.map fun (name, value) => name ++ ": " ++ Json.write value)

end Event

def logged (least : Level) (events : List Event) : List Event :=
  events.filter (·.isLogged least)

end Log
end TypedStatement
