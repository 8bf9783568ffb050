import TypedStatement.Source.Grammar.Item

/-!
# The grammar

`Grammar.rules` closes the rules over one another.  A rule calls another one only after it has taken a token or entered
a group, up to a few rules on the way, so a depth of a few rules for each token is enough.

The readers of whole fragments stand in the namespace of what they read.
-/

namespace TypedStatement.Source
set_option autoImplicit false

/-! ## All rules -/

namespace Token

mutual

/-- The number of tokens, those inside counted too. -/
def count : Token → Nat
  | .group _ content => countAll content + 1
  | _ => 1

def countAll : List Token → Nat
  | [] => 0
  | token :: rest => token.count + countAll rest

end
end Token

namespace Grammar

open Reader

/-- The rules, which may call one another `depth` deep. -/
def rules : Nat → Table
  | 0, _ => refused "expected fewer tokens inside one another"
  | depth + 1, .type plus => typeRule (rules depth) (outerAttributes (rules depth)) plus
  | depth + 1, .pattern => patternRule (rules depth)
  | depth + 1, .expression records => expressionRule (rules depth) records
  | depth + 1, .block => blockRule (rules depth)
  | depth + 1, .item => itemRule (rules depth)

/-- Runs a reader with the rules, as deep as the tokens may need them. -/
def withRules {α : Type} (reader : Table → Reader α) : Reader α := do
  reader (rules (8 * Token.countAll (← get) + 16))

end Grammar

/-! ## Whole fragments -/

def Ident.parse (text : String) : Except FragmentError Ident :=
  Reader.ident.parse text

def Path.parse (text : String) : Except FragmentError Path :=
  (Grammar.withRules Grammar.path).parse text

/-- The form of the type that the text spells. -/
def Shape.ofType (text : String) : Except FragmentError Shape :=
  (Grammar.withRules fun table => return (← table (.type true)).shape).parse text

def Visibility.parse (text : String) : Except FragmentError Visibility :=
  Reader.visibility.parse text

def Item.ofTokens? (tokens : List Token) : Except FragmentError Item :=
  (Grammar.withRules Grammar.item).all tokens

def Item.parse (text : String) : Except FragmentError Item :=
  (Grammar.withRules Grammar.item).parse text

def Item.listOfTokens? (tokens : List Token) : Except FragmentError (List Item) :=
  (Grammar.withRules fun table => Reader.many do
    if ← Reader.atEnd then return none else return some (← Grammar.item table)).all tokens

end TypedStatement.Source
