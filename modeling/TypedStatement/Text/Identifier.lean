import TypedStatement.Text.IdentifierTable

/-!
# Identifier characters

An identifier begins with a letter of any script or `_` and goes on with letters, digits and marks.  Up to U+007F
the two classes are written out, so that statements on plain names need no table.
-/

namespace TypedStatement.Text
set_option autoImplicit false

/-- Letters, digits and `_` of ASCII. -/
def isAsciiWord (c : Char) : Bool :=
  c.isAlphanum || c == '_'

/-- Whether an identifier may begin with the character. -/
def isIdentifierStart (c : Char) : Bool :=
  if c.toNat < 0x80 then c.isAlpha || c == '_' else identifierStartRanges.contains c

/-- Whether the character may stand inside an identifier. -/
def isIdentifierPart (c : Char) : Bool :=
  if c.toNat < 0x80 then isAsciiWord c
  else identifierStartRanges.contains c || identifierOnlyInsideRanges.contains c

/-- A name `[A-Za-z_][A-Za-z0-9_]*`. -/
def isAsciiName : List Char → Bool
  | [] => false
  | c :: rest => (c.isAlpha || c == '_') && rest.all isAsciiWord

end TypedStatement.Text
