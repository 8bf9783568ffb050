import TypedStatement.Attribute.Arguments

/-!
# The attribute

The attribute replaces the item it stands on: by the expansion, or by the item itself with compile errors after it.
-/

namespace TypedStatement.Attribute
set_option autoImplicit false

open Source (Item Token)

/-- What an item stands for under given arguments. -/
def expandArguments (arguments : Arguments) (item : Item) : List Token :=
  let (tokens, diagnostics) := expandInto [] item arguments.template arguments.options
  tokens ++ diagnostics.flatMap Diagnostic.compileErrors

/-- Expands the tokens of the arguments and of the item; the arguments are read first. -/
def expand (arguments item : List Token) : Except (List Problem) (List Token) :=
  match readArguments arguments with
  | .error problems => .error problems
  | .ok read =>
    match Item.ofTokens? item with
    | .error error => .error [⟨.unreadable error, none⟩]
    | .ok found => .ok (expandArguments read found)

end TypedStatement.Attribute
