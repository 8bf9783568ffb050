import TypedStatement.Number.Shortest

/-!
# Plain data

What manifests, variables, reports and log records hold: single values, lists and tables.
-/

namespace TypedStatement
set_option autoImplicit false

/-- A single value. -/
inductive Atom where
  | null
  | bool (value : Bool)
  | int (value : Int)
  | float (value : Number.Double)
  | text (value : String)
  deriving DecidableEq

inductive Datum where
  | atom (value : Atom)
  | list (items : List Datum)
  /-- Entries with their keys, in order. -/
  | table (entries : List (String × Datum))

namespace Datum

def text (value : String) : Datum := .atom (.text value)

def nat (value : Nat) : Datum := .atom (.int value)

def optional {α : Type} (datum : α → Datum) : Option α → Datum
  | none => .atom .null
  | some value => datum value

end Datum
end TypedStatement
