/-!
# Double precision numbers

A finite double is `mantissa · 2 ^ exponent` with a mantissa below `2 ^ 53` and an exponent from `-1074` to `971`.  A
decimal number or a quotient is read as the nearest double, of two equally near ones the one with an even mantissa, in
exact arithmetic on natural numbers.
-/

namespace TypedStatement.Number
set_option autoImplicit false

inductive Double where
  | finite (negative : Bool) (mantissa : Nat) (exponent : Int)
  | infinite (negative : Bool)
  | nan
  deriving DecidableEq

namespace Double

/-- The number of bits of a mantissa. -/
def precision : Nat := 53

/-- The exponent of the smallest doubles. -/
def leastExponent : Int := -1074

def greatestExponent : Int := 971

/-- The quotient, rounded to the nearest whole number, and to the even one of two. -/
def roundQuotient (numerator denominator : Nat) : Nat :=
  let quotient := numerator / denominator
  let rest := numerator % denominator
  if denominator < 2 * rest ∨ (2 * rest = denominator ∧ quotient % 2 = 1) then quotient + 1 else quotient

/-- The fraction divided by a power of two. -/
def scaled (numerator denominator : Nat) (exponent : Int) : Nat × Nat :=
  if 0 ≤ exponent then (numerator, denominator * Nat.pow 2 exponent.toNat)
  else (numerator * Nat.pow 2 (-exponent).toNat, denominator)

/-- The exponent of the double nearest to a fraction, before rounding. -/
def exponentOf (numerator denominator : Nat) : Int :=
  let guess : Int := (numerator.log2 : Int) - denominator.log2 - (precision - 1 : Nat)
  let (n, d) := scaled numerator denominator guess
  max (if n / d < Nat.pow 2 (precision - 1) then guess - 1 else guess) leastExponent

/-- The double nearest to a fraction; the denominator is not zero. -/
def ofFraction (negative : Bool) (numerator denominator : Nat) : Double :=
  if numerator = 0 then .finite negative 0 leastExponent
  else
    let exponent := exponentOf numerator denominator
    let (n, d) := scaled numerator denominator exponent
    let mantissa := roundQuotient n d
    let (mantissa, exponent) :=
      if mantissa = Nat.pow 2 precision then (Nat.pow 2 (precision - 1), exponent + 1) else (mantissa, exponent)
    if greatestExponent < exponent then .infinite negative else .finite negative mantissa exponent

/-- Decimal exponents beyond which a number is surely too great, or surely nearest to zero. -/
def decimalReach : Int := 400

/-- The double nearest to `digits · 10 ^ exponent`. -/
def ofDecimal (negative : Bool) (digits : Nat) (exponent : Int) : Double :=
  let magnitude := ((Nat.toDigits 10 digits).length : Int) + exponent
  if digits = 0 ∨ magnitude < -decimalReach then .finite negative 0 leastExponent
  else if decimalReach < magnitude then .infinite negative
  else if 0 ≤ exponent then ofFraction negative (digits * Nat.pow 10 exponent.toNat) 1
  else ofFraction negative digits (Nat.pow 10 (-exponent).toNat)

/-- The double nearest to a whole number. -/
def ofNat (n : Nat) : Double := ofFraction false n 1

def isZero : Double → Bool
  | .finite _ mantissa _ => mantissa == 0
  | _ => false

def isNegative : Double → Bool
  | .finite negative _ _ => negative
  | .infinite negative => negative
  | .nan => false

/-- The number with the sign turned if `turn` holds. -/
def signed (turn : Bool) : Double → Double
  | .finite negative mantissa exponent => .finite (negative != turn) mantissa exponent
  | .infinite negative => .infinite (negative != turn)
  | .nan => .nan

/-- A finite double without its sign, as a fraction. -/
def fraction? : Double → Option (Nat × Nat)
  | .finite _ mantissa exponent =>
    if 0 ≤ exponent then some (mantissa * Nat.pow 2 exponent.toNat, 1) else some (mantissa, Nat.pow 2 (-exponent).toNat)
  | _ => none

/-- The product of two doubles without sign. -/
def times (a b : Double) : Double :=
  match a.fraction?, b.fraction? with
  | some (n, d), some (n', d') => ofFraction false (n * n') (d * d')
  | _, _ => .infinite false

/-- The quotient of two doubles without sign; the second is not zero. -/
def quotient (a b : Double) : Double :=
  match a.fraction?, b.fraction? with
  | some (n, d), some (n', d') => ofFraction false (n * d') (d * n')
  | _, _ => .finite false 0 leastExponent

end Double
end TypedStatement.Number
