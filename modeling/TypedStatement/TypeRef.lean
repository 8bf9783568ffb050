import TypedStatement.Scalar
import TypedStatement.Source.Grammar

/-!
# Types in templates

A hole names its type by a registered spelling, or by `Option` around one.  No other type is accepted.
-/

namespace TypedStatement
set_option autoImplicit false

open Source (Ident Path Shape TypeExpr)

/-- A type as a template names it. -/
structure TypeRef where
  /-- The spelling that was used. -/
  name : String
  scalar : Scalar
  optional : Bool
  deriving DecidableEq

namespace TypeRef

/-- The type under the first spelling of its scalar. -/
def ofScalar (scalar : Scalar) (optional : Bool) : TypeRef :=
  ⟨scalar.spellings.headD "", scalar, optional⟩

def ofSpelling? (optional : Bool) (spelling : String) : Option TypeRef :=
  (Scalar.lookup spelling).map fun scalar => ⟨spelling, scalar, optional⟩

/-- The name that is the only argument of `Option`, if the type is that. -/
def optionArgument? : Shape → Option Ident
  | .path ⟨_, [⟨name, some arguments⟩]⟩ => if name.text = "Option" then arguments.soleName else none
  | _ => none

/-- A type is resolved if it is a registered spelling, or `Option` around one. -/
def ofShape? (shape : Shape) : Option TypeRef :=
  match optionArgument? shape with
  | some name => ofSpelling? true name.text
  | none => shape.name?.bind fun name => ofSpelling? false name.text

/-- The type that the text spells, which must be a whole type of the grammar. -/
def parse (text : String) : Option TypeRef :=
  match Shape.ofType text with
  | .ok shape => ofShape? shape
  | .error _ => none

/-- The type as messages show it. -/
def display (type : TypeRef) : String :=
  if type.optional then "Option<" ++ type.name ++ ">" else type.name

/-- The type in emitted declarations. -/
def typeExpr (library : Path) (type : TypeRef) : TypeExpr :=
  let scalar := type.scalar.typeExpr library
  if type.optional then .apply (.ofNames true ["std", "option", "Option"]) [scalar] else scalar

end TypeRef
end TypedStatement
