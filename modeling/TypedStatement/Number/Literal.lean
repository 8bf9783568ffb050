import TypedStatement.Number.Double
import TypedStatement.Number.Int64
import TypedStatement.Text.Scanner

/-!
# Numbers as text

Whole numbers of 64 bits, and doubles in decimal notation.
-/

namespace TypedStatement.Number
set_option autoImplicit false

open Text (Scanner)

/-- The number that digits of a base say. -/
def digitsValue (base : Nat) (digits : List Char) : Nat :=
  digits.foldl (fun n c =>
    n * base + (if c.isDigit then c.toNat - '0'.toNat else c.toLower.toNat - 'a'.toNat + 10)) 0

/-- The sign, taken if there is one; `true` is minus. -/
def sign : Scanner Bool := do
  if ← Scanner.optionalChar '-' then return true
  let _ ← Scanner.optionalChar '+'
  return false

/-- A whole number of 64 bits in decimal digits, perhaps with a sign. -/
def intOf? (text : List Char) : Option Int :=
  Scanner.all? (do
    let negative ← sign
    let digits ← Scanner.takeSome Char.isDigit
    return (negative, digitsValue 10 digits)) text |>.bind fun (negative, n) => int64? negative n

/-- The exponent of a decimal number, which is zero if there is none. -/
def exponent : Scanner Int := do
  match ← Scanner.peek with
  | some e =>
    if e = 'e' ∨ e = 'E' then
      let _ ← Scanner.anyChar
      let negative ← sign
      let n : Int := digitsValue 10 (← Scanner.takeSome Char.isDigit)
      return if negative then -n else n
    else return 0
  | none => return 0

/-- A decimal number without sign: digits, perhaps with a point among or around them, and perhaps an exponent. -/
def decimal (negative : Bool) : Scanner Double := do
  let whole ← Scanner.takeAll Char.isDigit
  let fraction ← (do if ← Scanner.optionalChar '.' then Scanner.takeAll Char.isDigit else return [])
  if whole.isEmpty ∧ fraction.isEmpty then failure
  else return .ofDecimal negative (digitsValue 10 (whole ++ fraction)) ((← exponent) - fraction.length)

/-- The double that a text is: a decimal number, or a word for infinity or no number in any case. -/
def doubleOf? (text : List Char) : Option Double :=
  Scanner.all? (do
    let negative ← sign
    let rest := (← get).map Char.toLower
    if rest = "inf".toList ∨ rest = "infinity".toList then
      set ([] : List Char)
      return .infinite negative
    else if rest = "nan".toList then
      set ([] : List Char)
      return .nan
    else decimal negative) text

end TypedStatement.Number
