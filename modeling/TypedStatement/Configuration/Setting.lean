import TypedStatement.Datum
import TypedStatement.Manifest
import TypedStatement.Text.Casing

/-!
# Settings

Settings are plain data in which every part remembers where it comes from.  Layers of settings are laid over one another:
tables are merged key by key, and everything else is replaced.
-/

namespace TypedStatement
set_option autoImplicit false

namespace Configuration

/-- Where a setting comes from, if it is not built in. -/
inductive Origin where
  | file (path : String)
  | environment
  deriving DecidableEq

inductive Setting where
  | atom (origin : Option Origin) (value : Atom)
  | list (origin : Option Origin) (items : List Setting)
  | table (origin : Option Origin) (entries : List (String × Setting))

namespace Setting

def origin : Setting → Option Origin
  | .atom origin _ => origin
  | .list origin _ => origin
  | .table origin _ => origin

def null : Setting := .atom none .null

def emptyTable : Setting := .table none []

/-! ## From data -/

mutual

/-- Data that come from one place. -/
def ofDatum (origin : Option Origin) : Datum → Setting
  | .atom value => .atom origin value
  | .list items => .list origin (ofItems origin items)
  | .table entries => .table origin (ofEntries origin entries)

def ofItems (origin : Option Origin) : List Datum → List Setting
  | [] => []
  | item :: rest => ofDatum origin item :: ofItems origin rest

def ofEntries (origin : Option Origin) : List (String × Datum) → List (String × Setting)
  | [] => []
  | (key, value) :: rest => (key, ofDatum origin value) :: ofEntries origin rest

end

/-! ## Tables -/

/-- The entries of a table; anything else counts as an empty table. -/
def entries : Setting → List (String × Setting)
  | .table _ entries => entries
  | _ => []

def asTable : Setting → Setting
  | .table origin entries => .table origin entries
  | _ => emptyTable

def lookup? (key : String) (setting : Setting) : Option Setting :=
  (setting.entries.find? (·.1 == key)).map (·.2)

/-- Entries with one replaced, or added at the end. -/
def putEntry (key : String) (value : Setting) : List (String × Setting) → List (String × Setting)
  | [] => [(key, value)]
  | (k, old) :: rest => if k == key then (key, value) :: rest else (k, old) :: putEntry key value rest

/-- The table with one entry replaced or added. -/
def put (setting : Setting) (key : String) (value : Setting) : Setting :=
  match setting with
  | .table origin entries => .table origin (putEntry key value entries)
  | _ => .table none [(key, value)]

/-! ## Layers -/

mutual

/-- Lays a value over what a table has at a key.  Keys are in lower case. -/
def lay (target : Setting) (key : String) : Setting → Setting
  | .table _ entries =>
    let key := Text.lowercaseString key
    target.asTable.put key (layAll ((target.lookup? key).getD emptyTable) entries)
  | .list origin items => target.asTable.put (Text.lowercaseString key) (.list origin items)
  | .atom origin value => target.asTable.put (Text.lowercaseString key) (.atom origin value)

/-- Lays entries over a table. -/
def layAll (target : Setting) : List (String × Setting) → Setting
  | [] => target
  | (key, value) :: rest => layAll (lay target key value) rest

end

end Setting

/-- The built-in settings.  There is no list of statements among them. -/
def defaults : Setting :=
  let usual := Manifest.default
  .layAll .emptyTable (Setting.ofEntries none
    [("generator", .table [("crate_path", .text usual.generator.cratePath),
        ("visibility", .text usual.generator.visibility), ("derives", .list (usual.generator.derives.map .text)),
        ("header", .atom (.bool usual.generator.header))]),
      ("logging", .table [("level", .text usual.logging.level), ("format", .text usual.logging.format)])])

end Configuration
end TypedStatement
