import TypedStatement.Datum

/-!
# Tables in TOML

A table is defined by its own header, by headers of tables inside it, or by keys with dots.  It is extended only in ways
that do not define it twice, and no key gets two values.
-/

namespace TypedStatement.Toml
set_option autoImplicit false

/-- How a table has come to be. -/
inductive Definition where
  /-- By its own header. -/
  | explicit
  /-- By the header of a table inside it. -/
  | implicit
  /-- By a key with dots. -/
  | dotted
  deriving DecidableEq

inductive Node where
  | value (datum : Datum)
  | table (definition : Definition) (entries : List (String × Node))
  /-- A list of tables: those before the last one, and the last, which is still open. -/
  | tables (earlier : List Datum) (last : List (String × Node))

abbrev Entries := List (String × Node)

mutual

def Node.datum : Node → Datum
  | .value datum => datum
  | .table _ entries => .table (entryData entries)
  | .tables earlier last => .list (earlier ++ [.table (entryData last)])

/-- The entries of a finished table. -/
def entryData : Entries → List (String × Datum)
  | [] => []
  | (key, node) :: rest => (key, node.datum) :: entryData rest

end

namespace Entries

def lookup? (key : String) (entries : Entries) : Option Node :=
  (entries.find? (·.1 == key)).map (·.2)

/-- The entries with one replaced, or added at the end. -/
def put (key : String) (node : Node) : Entries → Entries
  | [] => [(key, node)]
  | (k, old) :: rest => if k == key then (key, node) :: rest else (k, old) :: put key node rest

/-- Changes the table at a path.  Tables that are missing are made: by keys with dots if `dotted`, which may not lead
through a table with its own header.  In a list of tables the path leads into the last one. -/
def changeAt (dotted : Bool) (change : Definition → Entries → Option Entries) :
    List String → Definition → Entries → Option Entries
  | [], definition, entries => change definition entries
  | key :: path, _, entries =>
    match lookup? key entries with
    | none =>
      let definition : Definition := if dotted then .dotted else .implicit
      (changeAt dotted change path definition []).map fun inner => put key (.table definition inner) entries
    | some (.value _) => none
    | some (.tables earlier last) =>
      (changeAt dotted change path .explicit last).map fun inner => put key (.tables earlier inner) entries
    | some (.table definition inner) =>
      if dotted ∧ definition = .explicit then none
      else (changeAt dotted change path definition inner).map fun inner => put key (.table definition inner) entries

/-- A value at a key with dots: the parts before the last one, and the last. -/
def insert (path : List String) (key : String) (datum : Datum) (definition : Definition) (entries : Entries) :
    Option Entries :=
  changeAt true (fun definition entries =>
    if (definition = .dotted) = path.isEmpty then none
    else
      match lookup? key entries with
      | some _ => none
      | none => some (put key (.value datum) entries)) path definition entries

/-- A table with its own header. -/
def define (path : List String) (key : String) (entries : Entries) : Option Entries :=
  changeAt false (fun _ entries =>
    match lookup? key entries with
    | none => some (put key (.table .explicit []) entries)
    | some (.table .implicit inner) => some (put key (.table .explicit inner) entries)
    | some _ => none) path .explicit entries

/-- One more table in a list of tables. -/
def append (path : List String) (key : String) (entries : Entries) : Option Entries :=
  changeAt false (fun _ entries =>
    match lookup? key entries with
    | none => some (put key (.tables [] []) entries)
    | some (.tables earlier last) => some (put key (.tables (earlier ++ [.table (entryData last)]) []) entries)
    | some _ => none) path .explicit entries

end Entries
end TypedStatement.Toml
