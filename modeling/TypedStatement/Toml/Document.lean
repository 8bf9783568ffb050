import TypedStatement.Toml.Moment
import TypedStatement.Toml.Number
import TypedStatement.Toml.Table
import TypedStatement.Toml.Text

/-!
# TOML documents

A document is a list of lines: headers of tables and entries.  The lines are read first, and the table is built from
them.
-/

namespace TypedStatement.Toml
set_option autoImplicit false

open Text (Scanner)

/-! ## Keys -/

/-- A key with dots: the parts before the last one, and the last. -/
structure Key where
  path : List String
  last : String

/-- How many parts a key may have, and how deep values may stand inside one another. -/
def depthLimit : Nat := 79

def keyPart : Scanner String := do
  let part ← match ← Scanner.peek with
    | some '"' => basicString
    | some '\'' => literalString
    | _ => Scanner.takeSome isBare
  return String.ofList part

/-- A key, with blanks around its parts. -/
def key : Scanner Key := do
  blanks
  let first ← keyPart
  blanks
  let later ← Scanner.many do
    if ← Scanner.optionalChar '.' then
      blanks
      let part ← keyPart
      blanks
      return some part
    else return none
  let parts := first :: later
  if depthLimit < parts.length then failure
  else return ⟨parts.dropLast, parts.getLast (List.cons_ne_nil first later)⟩

/-! ## Values -/

/-- A list whose items are read by `item`. -/
def list (item : Scanner Datum) : Scanner Datum := do
  Scanner.char '['
  filler
  let items ← Scanner.many do
    if (← Scanner.peek) = some ']' then return none
    let value ← item
    filler
    if (← Scanner.peek) ≠ some ']' then
      Scanner.char ','
      filler
    return some value
  Scanner.char ']'
  return .list items

/-- An entry with its value. -/
structure Entry where
  key : Key
  datum : Datum

/-- A key and a value with an equals sign between them. -/
def entry (value : Scanner Datum) : Scanner Entry := do
  let key ← key
  Scanner.char '='
  blanks
  return ⟨key, ← value⟩

/-- The entries in a table that has none. -/
def entriesOf? : List Entry → Entries → Option Entries
  | [], entries => some entries
  | entry :: rest, entries =>
    (entries.insert entry.key.path entry.key.last entry.datum .explicit).bind (entriesOf? rest)

/-- A table in braces, on one line. -/
def inlineTable (value : Scanner Datum) : Scanner Datum := do
  Scanner.char '\x7b'
  blanks
  let first ← (do
    if (← Scanner.peek) = some '\x7d' then return []
    else return [← entry value])
  blanks
  let later ← Scanner.many do
    if ← Scanner.optionalChar ',' then
      let next ← entry value
      blanks
      return some next
    else return none
  if first.isEmpty ∧ ¬later.isEmpty then failure
  Scanner.char '\x7d'
  match entriesOf? (first ++ later) [] with
  | some entries => return .table (entryData entries)
  | none => failure

/-- A value; others may stand inside, `depth` deep. -/
def value : Nat → Scanner Datum
  | 0 => failure
  | depth + 1 => do
    match ← Scanner.peek with
    | none => failure
    | some c =>
      if c = '"' ∨ c = '\'' then return .text (String.ofList (← string))
      else if c = '[' then (if depth = 0 then failure else list (value depth))
      else if c = '\x7b' then (if depth = 0 then failure else inlineTable (value depth))
      else if c = 't' then
        Scanner.word "true".toList
        return .atom (.bool true)
      else if c = 'f' then
        Scanner.word "false".toList
        return .atom (.bool false)
      else
        match ← Scanner.optional moment with
        | some moment => return .text moment.text
        | none => return .atom (← number)

/-! ## Lines -/

inductive Line where
  | table (key : Key)
  | element (key : Key)
  | entry (entry : Entry)

/-- What may stand after a header or an entry, up to the end of the line. -/
def lineEnd : Scanner Unit := do
  blanks
  if (← Scanner.peek) = some '#' then comment
  if (← get).isEmpty then return () else lineBreak

/-- The header of a table, or of an element of a list of tables. -/
def header : Scanner Line := do
  Scanner.char '['
  if ← Scanner.optionalChar '[' then
    let key ← key
    Scanner.word [']', ']']
    return .element key
  else
    let key ← key
    Scanner.char ']'
    return .table key

/-- The next line, if the text has not ended; an empty one is `none`. -/
def line : Scanner (Option (Option Line)) := do
  blanks
  match ← Scanner.peek with
  | none => return none
  | some '#' =>
    lineEnd
    return some none
  | some '\n' =>
    lineBreak
    return some none
  | some '\r' =>
    lineBreak
    return some none
  | some '[' =>
    let line ← header
    lineEnd
    return some (some line)
  | _ =>
    let entry ← entry (value (depthLimit + 1))
    lineEnd
    return some (some (.entry entry))

def lines : Scanner (List Line) := do
  return (← Scanner.many line).filterMap id

/-! ## Documents -/

/-- The table with more lines; `current` is the path of the table that entries belong to. -/
def build : List Line → List String → Entries → Option Entries
  | [], _, entries => some entries
  | .table key :: rest, _, entries =>
    (entries.define key.path key.last).bind (build rest (key.path ++ [key.last]))
  | .element key :: rest, _, entries =>
    (entries.append key.path key.last).bind (build rest (key.path ++ [key.last]))
  | .entry entry :: rest, current, entries =>
    (entries.changeAt false
      (fun definition table => table.insert entry.key.path entry.key.last entry.datum definition) current
      .explicit).bind (build rest current)

/-- The text without a byte order mark at its start. -/
def withoutMark (text : List Char) : List Char :=
  match text with
  | '\ufeff' :: rest => rest
  | _ => text

def read? (text : String) : Option (List (String × Datum)) :=
  match Scanner.all? lines (withoutMark text.toList) with
  | none => none
  | some lines => (build lines [] []).map entryData

end TypedStatement.Toml
