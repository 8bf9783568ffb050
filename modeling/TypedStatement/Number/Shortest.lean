import TypedStatement.Number.Double

/-!
# Doubles as text

A double is written with the fewest decimal digits that read back as the same double, and of those with the digits nearest
to it.  The text has no exponent.
-/

namespace TypedStatement.Number
set_option autoImplicit false

namespace Double

/-- A decimal number `digits · 10 ^ exponent`. -/
structure Decimal where
  digits : Nat
  exponent : Int
  deriving DecidableEq

/-- The same number without zeros at the end of its digits. -/
def Decimal.reduced (decimal : Decimal) : Decimal :=
  if h : decimal.digits ≠ 0 ∧ decimal.digits % 10 = 0 then
    Decimal.reduced ⟨decimal.digits / 10, decimal.exponent + 1⟩
  else decimal
termination_by decimal.digits
decreasing_by exact Nat.div_lt_self (Nat.pos_of_ne_zero h.1) (by decide)

/-- A fraction divided by a power of ten. -/
def tenfold (numerator denominator : Nat) (exponent : Int) : Nat × Nat :=
  if 0 ≤ exponent then (numerator, denominator * Nat.pow 10 exponent.toNat)
  else (numerator * Nat.pow 10 (-exponent).toNat, denominator)

/-- The number of digits before the point, or minus the number of zeros after it. -/
def decimalPlace (numerator denominator : Nat) : Int :=
  ((Nat.toDigits 10 (numerator * Nat.pow 10 350 / denominator)).length : Int) - 350

/-- The numbers that read as one double: they lie between `low` and `high`, counted in quarters of its last bit. -/
structure Interval where
  low : Nat
  value : Nat
  high : Nat
  /-- Whether the ends belong to it. -/
  closed : Bool

def interval (mantissa : Nat) (exponent : Int) : Interval :=
  ⟨4 * mantissa - (if mantissa = Nat.pow 2 (precision - 1) ∧ leastExponent < exponent then 1 else 2), 4 * mantissa,
    4 * mantissa + 2, mantissa % 2 == 0⟩

/-- Whether a multiple of the unit `unit / scale` lies in the interval. -/
def Interval.holds (i : Interval) (unit scale digits : Nat) : Bool :=
  if i.closed then i.low * unit ≤ digits * scale && digits * scale ≤ i.high * unit
  else i.low * unit < digits * scale && digits * scale < i.high * unit

/-- The nearest decimal number of the interval on the grid with the step `10 ^ place`.  A quarter of the last bit is
`unit / scale` steps. -/
def Interval.onGrid? (i : Interval) (unit scale : Nat) (place : Int) : Option Decimal :=
  let below := i.value * unit / scale
  let rest := i.value * unit % scale
  match i.holds unit scale below, i.holds unit scale (below + 1) with
  | false, false => none
  | true, false => some ⟨below, place⟩
  | false, true => some ⟨below + 1, place⟩
  | true, true => if 2 * rest < scale then some ⟨below, place⟩ else some ⟨below + 1, place⟩

/-- The first of `count` ever finer grids that has a number of the interval; the double is `numerator / denominator`
quarters of its last bit. -/
def Interval.shortest (i : Interval) (numerator denominator : Nat) (place : Int) : Nat → Decimal
  | 0 => ⟨0, 0⟩
  | count + 1 =>
    let (unit, scale) := tenfold numerator denominator place
    match i.onGrid? unit scale place with
    | some decimal => decimal
    | none => i.shortest numerator denominator (place - 1) count

/-- The shortest decimal number that reads as the double; seventeen digits are always enough. -/
def shortest (mantissa : Nat) (exponent : Int) : Decimal :=
  let (numerator, denominator) :=
    if 2 ≤ exponent then (Nat.pow 2 (exponent - 2).toNat, 1) else (1, Nat.pow 2 (2 - exponent).toNat)
  ((interval mantissa exponent).shortest numerator denominator
    (decimalPlace (4 * mantissa * numerator) denominator - 1) 17).reduced

/-- The decimal number with a point, and no exponent. -/
def Decimal.positional (decimal : Decimal) : List Char :=
  let digits := Nat.toDigits 10 decimal.digits
  if 0 ≤ decimal.exponent then digits ++ List.replicate decimal.exponent.toNat '0'
  else
    let places := (-decimal.exponent).toNat
    if places < digits.length then digits.take (digits.length - places) ++ '.' :: digits.drop (digits.length - places)
    else '0' :: '.' :: (List.replicate (places - digits.length) '0' ++ digits)

def text : Double → String
  | .nan => "NaN"
  | .infinite negative => if negative then "-inf" else "inf"
  | .finite negative mantissa exponent =>
    (if negative then "-" else "") ++
      if mantissa = 0 then "0" else String.ofList (shortest mantissa exponent).positional

def pointedText (x : Double) : String :=
  match x with
  | .finite _ _ _ => if x.text.toList.contains '.' then x.text else x.text ++ ".0"
  | _ => x.text

end Double
end TypedStatement.Number
