import TypedStatement.Source.Visibility

/-!
# Rules of the grammar

Types, patterns, expressions, blocks and items contain one another.  Each rule is a reader that is given a `Table`
of all rules to call; the table is closed in `TypedStatement.Source.Grammar`.

A rule answers the tokens it has read in their plain spacing: what stands for one operator is joined, and what
stands for two is not, whatever the spacing of the source.
-/

namespace TypedStatement.Source
set_option autoImplicit false

inductive Rule where
  /-- A type; `plus` says that bounds may follow it. -/
  | type (plus : Bool)
  | pattern
  /-- An expression; `records` says that a brace after a path begins a record. -/
  | expression (records : Bool)
  /-- A block in braces. -/
  | block
  | item

/-- What was read, as far as it matters to the rule around it. -/
inductive Shape where
  /-- A path without a self type. -/
  | path (path : Path)
  | literal (text : String)
  | macroCall (braced : Bool)
  /-- Another form, by its name in messages. -/
  | form (name : String)

/-- The identifier, if what was read is no more than that. -/
def Shape.name? : Shape → Option Ident
  | .path found => found.ident?
  | _ => none

/-- Whether an expression of this form is a statement without a semicolon. -/
def Shape.standsAlone : Shape → Bool
  | .macroCall braced => braced
  | .form name => ["if", "match", "block", "unsafe", "while", "loop", "for_loop", "try_block", "const"].contains name
  | _ => false

/-- Whether a match arm with this body may do without a comma. -/
def Shape.endsArm : Shape → Bool
  | .macroCall _ => false
  | shape => shape.standsAlone

structure Reading where
  tokens : List Token
  shape : Shape

abbrev Table := Rule → Reader Reading

namespace Table

def tokens (table : Table) (rule : Rule) : Reader (List Token) := do
  return (← table rule).tokens

end Table

namespace Reader

/-- Whether the third token from here satisfies the test. -/
def third (test : Token → Bool) : Reader Bool := do
  return ((← get).drop 2).head?.any test

/-- Takes all tokens that are left. -/
def everything : Reader (List Token) := do
  let tokens ← get
  set ([] : List Token)
  return tokens

def isMark (c : Char) : Token → Bool
  | .punct p _ => p == c
  | _ => false

end Reader
end TypedStatement.Source
