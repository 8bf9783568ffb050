import TypedStatement.Text.EscapeTable

/-!
# Text between double quotes

A quoted text shows its characters as they are, except the quote, the backslash, line breaks and tabs, and every
character that would not be seen or would fuse with its neighbour: those are written by escapes.
-/

namespace TypedStatement.Text
set_option autoImplicit false

/-- Characters that are written by their code point: controls, format characters, separators other than the
space, unassigned code points, and marks that combine with the character before them. -/
def isHiddenInQuotes (c : Char) : Bool :=
  if c.toNat < 0x80 then c.toNat < 0x20 || c.toNat == 0x7f
  else graphemeExtendRanges.contains c || unprintableRanges.contains c

/-- The lower case hexadecimal digits of a number, without leading zeros. -/
def hexDigits (n : Nat) : List Char :=
  Nat.toDigits 16 n

/-- One character inside double quotes. -/
def escapeChar (c : Char) : List Char :=
  if c == '\x00' then ['\\', '0']
  else if c == '\t' then ['\\', 't']
  else if c == '\n' then ['\\', 'n']
  else if c == '\r' then ['\\', 'r']
  else if c == '"' || c == '\\' then ['\\', c]
  else if isHiddenInQuotes c then "\\u\x7b".toList ++ hexDigits c.toNat ++ ['}']
  else [c]

/-- The text inside double quotes, as messages show it. -/
def quoted (text : String) : String :=
  String.ofList ('"' :: text.toList.flatMap escapeChar ++ ['"'])

end TypedStatement.Text
