import TypedStatement.Source.Reader

/-!
# Names of fields

A column or parameter can become a field if its name is an ASCII identifier and not reserved.  A keyword becomes a raw
identifier.
-/

namespace TypedStatement
set_option autoImplicit false

open Source (Ident)

/-- Names that cannot be fields even as raw identifiers. -/
def reservedNames : List String := ["self", "Self", "super", "crate", "_"]

def isFieldName (name : String) : Bool :=
  Text.isAsciiName name.toList && !reservedNames.contains name

/-- The identifier of the field with a name: raw exactly if the name is a keyword. -/
def fieldIdent? (name : String) : Option Ident :=
  if isFieldName name then some ⟨name, !(Ident.plain name).isUsable⟩ else none

end TypedStatement
