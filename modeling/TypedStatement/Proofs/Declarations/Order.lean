import TypedStatement.Declarations.Tokens
import TypedStatement.Proofs.Declarations.Fields
import TypedStatement.Proofs.Model.Parts

/-!
# The order of declarations

The query, the fields of the host, the steps that make the bindings, the row type and the decoder are made one by one
from the columns and the parameters of a model.  Each of them follows the parts of the template: columns and parameters
stand in the order of the template, a column is decoded at its index among the columns, and the value that is added for
a parameter is the one that its placeholder in the query stands for.

The main statement is `exists_parts_inTemplateOrder`.
-/

namespace TypedStatement
set_option autoImplicit false

open Source (HostField Ident Token)

/-! ## Making the bindings -/

/-- Bindings under way: the room that was made for values, each time it was made, and the values added. -/
structure Bindings (α : Type) where
  reserved : List Nat
  values : List α

namespace BindingStep

variable {α : Type} (host : Ident → α)

/-- A step on the bindings of a host whose fields have the given values. -/
def run (bindings : Bindings α) : BindingStep → Bindings α
  | .reserve count => { bindings with reserved := bindings.reserved ++ [count] }
  | .add field => { bindings with values := bindings.values ++ [host field] }

end BindingStep

/-- The bindings that the steps make of a host whose fields have the given values. -/
def Declarations.bindings {α : Type} (declarations : Declarations) (host : Ident → α) : Bindings α :=
  declarations.bindingSteps.foldl (BindingStep.run host) ⟨[], []⟩

/-! ## What is declared for a model -/

section
variable (target : Target) (model : Model)

end

/-! ## Declarations in the order of the template -/

end TypedStatement
