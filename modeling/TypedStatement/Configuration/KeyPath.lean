import TypedStatement.Configuration.Setting
import TypedStatement.Number.Literal

/-!
# Paths of settings

A path leads from the outermost table through keys and places in lists: `a.b[0].c`.  A value can be laid at a path even
where there is nothing yet.
-/

namespace TypedStatement.Configuration
set_option autoImplicit false

open Text (Scanner)

inductive Step where
  | key (name : String)
  /-- A place in a list, counted from its end if it is negative. -/
  | index (place : Int)
  deriving DecidableEq

abbrev KeyPath := List Step

/-! ## Reading -/

/-- Whether the character may stand in a key of a path. -/
def isKeyChar (c : Char) : Bool := c.isAlphanum || c == ' ' || c == '_' || c == '-'

/-- The greatest place that a path can name. -/
def placeLimit : Nat := Number.int64Bound - 1

def placeStep : Scanner Step := do
  let isBlank (c : Char) := c == ' ' || c == '\t'
  let _ ← Scanner.takeAll isBlank
  let negative ← Scanner.optionalChar '-'
  let n := Number.digitsValue 10 (← Scanner.takeSome Char.isDigit)
  let _ ← Scanner.takeAll isBlank
  Scanner.char ']'
  if placeLimit < n then failure else return .index (if negative then -n else n)

def keyStep : Scanner Step := do
  return .key (String.ofList (← Scanner.takeSome isKeyChar))

def keyPath : Scanner KeyPath := do
  let first ← keyStep
  let later ← Scanner.many do
    match ← Scanner.peek with
    | none => return none
    | some '.' =>
      Scanner.char '.'
      return some (← keyStep)
    | some _ =>
      Scanner.char '['
      return some (← placeStep)
  return first :: later

/-- The path that a text says; a text that says none is a single key. -/
def KeyPath.ofText (text : String) : KeyPath :=
  ((Scanner.all? keyPath text.toList).getD [.key text])

/-! ## Laying values -/

namespace Setting

/-- The items of a list; anything else counts as an empty list. -/
def items : Setting → List Setting
  | .list _ items => items
  | _ => []

/-- The list of items and the position in it that a place names.  The list is filled up with nulls where it is too
short. -/
def room (place : Int) (items : List Setting) : List Setting × Nat :=
  if 0 ≤ place then (items ++ List.replicate (place.toNat + 1 - items.length) null, place.toNat)
  else
    let back := (-place).toNat
    (List.replicate (back - items.length) null ++ items, items.length - back)

/-- Changes the item at a place of a list, which is made if it is missing. -/
def changeItem (place : Int) (change : Setting → Setting) (setting : Setting) : Setting :=
  let origin := match setting with
    | .list origin _ => origin
    | _ => none
  let (items, position) := room place setting.items
  .list origin (items.modify position change)

def layAt (value : Setting) : KeyPath → Setting → Setting
  | [], setting => setting
  | [.key name], setting => setting.lay name value
  | [.index place], setting => setting.changeItem place fun _ => value
  | .key name :: rest, setting =>
    setting.asTable.put name (layAt value rest ((setting.lookup? name).getD null))
  | .index place :: rest, setting => setting.changeItem place (layAt value rest)

/-- Lays a layer over settings: entries with paths as keys. -/
def layer (setting : Setting) (entries : List (String × Setting)) : Setting :=
  entries.foldl (fun setting (path, value) => layAt value (KeyPath.ofText path) setting) setting

end Setting
end TypedStatement.Configuration
