import TypedStatement.Datum
import TypedStatement.Number.Literal
import TypedStatement.Toml.Text

/-!
# Numbers in TOML

Digits may have single underscores between them.  Whole numbers have 64 bits, and may be in base two, eight or sixteen;
other numbers are doubles.
-/

namespace TypedStatement.Toml
set_option autoImplicit false

open Text (Scanner)
open Number (Double digitsValue int64? sign)

/-- Digits with single underscores between them, answered without these. -/
def digits (member : Char → Bool) : Scanner (List Char) := do
  let first ← Scanner.takeSome member
  let later ← Scanner.many do
    if ← Scanner.optionalChar '_' then return some (← Scanner.takeSome member) else return none
  return first ++ later.flatten

/-- A whole number of 64 bits after its sign. -/
def wholeNumber (negative : Bool) (n : Nat) : Scanner Atom :=
  match int64? negative n with
  | some value => return .int value
  | none => failure

/-- Numbers that are not in base ten: the letter after the zero, the base, and the digits. -/
def bases : List (Char × Nat × (Char → Bool)) :=
  [('x', 16, isHexDigit), ('o', 8, fun c => '0' ≤ c && c ≤ '7'), ('b', 2, fun c => c == '0' || c == '1')]

def exponentPart : Scanner (Option Int) := do
  match ← Scanner.peek with
  | some e =>
    if e = 'e' ∨ e = 'E' then
      let _ ← Scanner.anyChar
      let negative ← sign
      let n : Int := digitsValue 10 (← digits Char.isDigit)
      return some (if negative then -n else n)
    else return none
  | none => return none

/-- A number in base ten after its sign. -/
def decimalNumber (negative : Bool) : Scanner Atom := do
  let whole ← digits Char.isDigit
  if whole.head? = some '0' ∧ whole.length ≠ 1 then failure
  let fraction ← (do if ← Scanner.optionalChar '.' then some <$> digits Char.isDigit else return none)
  let exponent ← exponentPart
  if fraction.isNone ∧ exponent.isNone then wholeNumber negative (digitsValue 10 whole)
  else
    let places := fraction.getD []
    let x := Double.ofDecimal negative (digitsValue 10 (whole ++ places)) (exponent.getD 0 - places.length)
    if x = .infinite false then failure else return .float x

/-- A number of any kind. -/
def number : Scanner Atom := do
  let text ← get
  let base? := if text.head? = some '0' then bases.find? fun base => text[1]? == some base.1 else none
  match base? with
  | some (_, base, member) =>
    let _ ← Scanner.takeExactly 2 fun _ => true
    wholeNumber false (digitsValue base (← digits member))
  | none =>
    let negative ← sign
    match ← Scanner.peek with
    | some 'i' =>
      Scanner.word "inf".toList
      return .float (.infinite negative)
    | some 'n' =>
      Scanner.word "nan".toList
      return .float .nan
    | _ => decimalNumber negative

end TypedStatement.Toml
