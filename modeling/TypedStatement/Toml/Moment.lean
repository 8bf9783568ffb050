import TypedStatement.Number.Literal

/-!
# Dates and times

A moment is a date, a time, or both, perhaps with the distance from universal time.  Manifests use it as text in one
fixed form.
-/

namespace TypedStatement.Toml
set_option autoImplicit false

open Text (Scanner)

structure Date where
  year : Nat
  month : Nat
  day : Nat
  deriving DecidableEq

structure Time where
  hour : Nat
  minute : Nat
  second : Nat
  nanosecond : Nat
  deriving DecidableEq

/-- The distance from universal time. -/
inductive Offset where
  /-- Universal time itself. -/
  | universal
  | minutes (east : Int)
  deriving DecidableEq

inductive Moment where
  | date (date : Date)
  | time (time : Time)
  | both (date : Date) (time : Time) (offset : Option Offset)
  deriving DecidableEq

/-! ## The calendar -/

def isLeapYear (year : Nat) : Bool :=
  year % 4 == 0 && (year % 100 != 0 || year % 400 == 0)

def daysOfMonth (year month : Nat) : Nat :=
  if month = 2 then (if isLeapYear year then 29 else 28)
  else if month ∈ [4, 6, 9, 11] then 30
  else 31

/-! ## Reading -/

/-- A number of so many digits that lies in a range. -/
def boundedNumber (digits least greatest : Nat) : Scanner Nat := do
  let n := Number.digitsValue 10 (← Scanner.takeExactly digits Char.isDigit)
  if least ≤ n ∧ n ≤ greatest then return n else failure

def date : Scanner Date := do
  let year ← boundedNumber 4 0 9999
  Scanner.char '-'
  let month ← boundedNumber 2 1 12
  Scanner.char '-'
  let day ← boundedNumber 2 1 (daysOfMonth year month)
  return ⟨year, month, day⟩

/-- The digits after the point of the seconds; those after the ninth are dropped. -/
def nanoseconds : Scanner Nat := do
  if ← Scanner.optionalChar '.' then
    let digits := (← Scanner.takeSome Char.isDigit).take 9
    return Number.digitsValue 10 digits * Nat.pow 10 (9 - digits.length)
  else return 0

def time : Scanner Time := do
  let hour ← boundedNumber 2 0 23
  Scanner.char ':'
  let minute ← boundedNumber 2 0 59
  Scanner.char ':'
  let second ← boundedNumber 2 0 60
  return ⟨hour, minute, second, ← nanoseconds⟩

def offset : Scanner Offset := do
  match ← Scanner.anyChar with
  | 'Z' => return .universal
  | 'z' => return .universal
  | c =>
    if c = '+' ∨ c = '-' then
      let hours ← boundedNumber 2 0 23
      Scanner.char ':'
      let east : Int := hours * 60 + (← boundedNumber 2 0 59)
      return .minutes (if c = '-' then -east else east)
    else failure

/-- A time after a date, with what separates them. -/
def timeOfDay : Scanner (Time × Option Offset) := do
  let separator ← Scanner.anyChar
  if separator ∈ ['T', 't', ' '] then return (← time, ← Scanner.optional offset) else failure

def moment : Scanner Moment := do
  match ← Scanner.optional date with
  | some day =>
    match ← Scanner.optional timeOfDay with
    | some (clock, distance) => return .both day clock distance
    | none => return .date day
  | none => return .time (← time)

/-! ## Writing -/

/-- A number with zeros in front. -/
def padded (width n : Nat) : String :=
  let digits := Nat.toDigits 10 n
  String.ofList (List.replicate (width - digits.length) '0' ++ digits)

def Date.text (date : Date) : String :=
  padded 4 date.year ++ "-" ++ padded 2 date.month ++ "-" ++ padded 2 date.day

/-- The point and the digits after it, without zeros at the end. -/
def fractionText (nanosecond : Nat) : String :=
  if nanosecond = 0 then ""
  else "." ++ String.ofList ((padded 9 nanosecond).toList.reverse.dropWhile (· == '0')).reverse

def Time.text (time : Time) : String :=
  padded 2 time.hour ++ ":" ++ padded 2 time.minute ++ ":" ++ padded 2 time.second ++ fractionText time.nanosecond

def Offset.text : Offset → String
  | .universal => "Z"
  | .minutes east =>
    (if east < 0 then "-" else "+") ++ padded 2 (east.natAbs / 60) ++ ":" ++ padded 2 (east.natAbs % 60)

def Moment.text : Moment → String
  | .date day => day.text
  | .time clock => clock.text
  | .both day clock distance => day.text ++ "T" ++ clock.text ++ (distance.map Offset.text).getD ""

end TypedStatement.Toml
