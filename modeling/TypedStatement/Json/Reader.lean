import TypedStatement.Datum
import TypedStatement.Number.Int64

/-!
# Reading JSON

A text is read as one value with white space around it.  Readers differ in which whole numbers they keep as integers, and
in what they make of keys that are repeated (`Reading`).  All other numbers are doubles.  Values may stand inside one another
up to a fixed depth.
-/

namespace TypedStatement.Json
set_option autoImplicit false

open Number (Double)

/-- What a reader keeps. -/
structure Reading where
  /-- The whole numbers that are kept as integers. -/
  isInteger : Int → Bool
  /-- The entries of a table that are kept, out of all that are written. -/
  settle : List (String × Datum) → List (String × Datum)

/-! ## Strings -/

def hexValue? (c : Char) : Option Nat :=
  if '0' ≤ c ∧ c ≤ '9' then some (c.toNat - '0'.toNat)
  else if 'a' ≤ c ∧ c ≤ 'f' then some (c.toNat - 'a'.toNat + 10)
  else if 'A' ≤ c ∧ c ≤ 'F' then some (c.toNat - 'A'.toNat + 10)
  else none

/-- The number that four hexadecimal digits say. -/
def unit? (a b c d : Char) : Option Nat :=
  match hexValue? a, hexValue? b, hexValue? c, hexValue? d with
  | some a, some b, some c, some d => some (((a * 16 + b) * 16 + c) * 16 + d)
  | _, _, _, _ => none

/-- Whether the number is the first half of a pair. -/
def isFirstHalf (unit : Nat) : Bool := 0xD800 ≤ unit && unit < 0xDC00

def isSecondHalf (unit : Nat) : Bool := 0xDC00 ≤ unit && unit < 0xE000

/-- The character that a pair of halves stands for. -/
def pairChar (first second : Nat) : Char :=
  Char.ofNat (0x10000 + (first - 0xD800) * 0x400 + (second - 0xDC00))

/-- The character that a letter after a backslash stands for. -/
def escaped? (c : Char) : Option Char :=
  if c = '"' ∨ c = '\\' ∨ c = '/' then some c
  else if c = 'b' then some '\x08'
  else if c = 'f' then some '\x0c'
  else if c = 'n' then some '\n'
  else if c = 'r' then some '\r'
  else if c = 't' then some '\t'
  else none

/-- A string after its opening quotation mark, and what follows it. -/
def stringBody : List Char → Option (List Char × List Char)
  | [] => none
  | '"' :: rest => some ([], rest)
  | '\\' :: 'u' :: a :: b :: c :: d :: rest =>
    match unit? a b c d with
    | none => none
    | some unit =>
      if isFirstHalf unit then
        match rest with
        | '\\' :: 'u' :: a :: b :: c :: d :: rest =>
          match unit? a b c d with
          | none => none
          | some second =>
            if isSecondHalf second then
              (stringBody rest).map fun (body, rest) => (pairChar unit second :: body, rest)
            else none
        | _ => none
      else if isSecondHalf unit then none
      else (stringBody rest).map fun (body, rest) => (Char.ofNat unit :: body, rest)
  | '\\' :: c :: rest =>
    match escaped? c with
    | none => none
    | some c => (stringBody rest).map fun (body, rest) => (c :: body, rest)
  | c :: rest =>
    if c.toNat < 0x20 ∨ c = '\\' then none
    else (stringBody rest).map fun (body, rest) => (c :: body, rest)

/-! ## Numbers -/

/-- The number that decimal digits say, after a number read so far. -/
def digitsValue (start : Nat) (digits : List Char) : Nat :=
  digits.foldl (fun n c => n * 10 + (c.toNat - '0'.toNat)) start

/-- The greatest number that the digits of a double are collected in. -/
def collectLimit : Nat := Nat.pow 2 64 - 1

/-- Collects digits as far as they fit; the others are counted. -/
def collect (value : Nat) : List Char → Nat × Nat
  | [] => (value, 0)
  | c :: rest =>
    let next := value * 10 + (c.toNat - '0'.toNat)
    if collectLimit < next then (value, rest.length + 1) else collect next rest

/-- The greatest power of ten that one step scales by. -/
def powerLimit : Nat := 308

def powerOfTen (n : Nat) : Double := .ofDecimal false 1 n

/-- A double divided by a great power of ten, in steps that each round.  Three steps make every number zero. -/
def divide (x : Double) (exponent : Nat) : Nat → Double
  | 0 => x
  | steps + 1 =>
    if exponent ≤ powerLimit then x.quotient (powerOfTen exponent)
    else if x.isZero then x
    else divide (x.quotient (powerOfTen powerLimit)) (exponent - powerLimit) steps

/-- The double that digits and a power of ten say, if it is finite.  The digits are rounded first, then the product or
quotient. -/
def scale? (digits : Nat) (exponent : Int) : Option Double :=
  let x := Double.ofNat digits
  if 0 ≤ exponent then
    if exponent ≤ powerLimit then
      match x.times (powerOfTen exponent.toNat) with
      | .finite negative mantissa e => some (.finite negative mantissa e)
      | _ => none
    else if x.isZero then some x else none
  else some (divide x (-exponent).toNat 4)

/-- The part of a number after the whole part: the digits after the point, and the exponent. -/
structure NumberTail where
  fraction : List Char
  exponent : Option Int

def exponent? : List Char → Option (Option Int × List Char)
  | e :: rest =>
    if e = 'e' ∨ e = 'E' then
      let (negative, rest) := match rest with
        | '-' :: rest => (true, rest)
        | '+' :: rest => (false, rest)
        | _ => (false, rest)
      match rest.span Char.isDigit with
      | ([], _) => none
      | (digits, rest) =>
        let n : Int := digitsValue 0 digits
        some (some (if negative then -n else n), rest)
    else some (none, e :: rest)
  | [] => some (none, [])

def numberTail? : List Char → Option (NumberTail × List Char)
  | '.' :: rest =>
    match rest.span Char.isDigit with
    | ([], _) => none
    | (fraction, rest) => (exponent? rest).map fun (exponent, rest) => (⟨fraction, exponent⟩, rest)
  | rest => (exponent? rest).map fun (exponent, rest) => (⟨[], exponent⟩, rest)

section
variable (reading : Reading)

/-- The number that its parts say. -/
def numberOf? (negative : Bool) (whole : List Char) (tail : NumberTail) : Option Atom :=
  let n := digitsValue 0 whole
  let value : Int := if negative then -(n : Int) else n
  if tail.fraction.isEmpty ∧ tail.exponent.isNone ∧ reading.isInteger value ∧ ¬(negative ∧ n = 0) then
    some (.int value)
  else
    let (digits, dropped) := collect 0 whole
    let (digits, left) := collect digits tail.fraction
    let places := tail.fraction.length - left
    (scale? digits (tail.exponent.getD 0 + dropped - places)).map fun x => .float (x.signed negative)

def number? (negative : Bool) (text : List Char) : Option (Atom × List Char) :=
  match text.span Char.isDigit with
  | ([], _) => none
  | (whole, rest) =>
    if whole.head? = some '0' ∧ whole.length ≠ 1 then none
    else
      match numberTail? rest with
      | none => none
      | some (tail, rest) => (numberOf? reading negative whole tail).map (·, rest)

end

/-! ## Values -/

def isSpace (c : Char) : Bool := c == ' ' || c == '\n' || c == '\t' || c == '\r'

def skipSpace (text : List Char) : List Char := text.dropWhile isSpace

def afterWord? : List Char → List Char → Option (List Char)
  | [], text => some text
  | c :: word, d :: text => if c = d then afterWord? word text else none
  | _ :: _, [] => none

/-- A value without others inside. -/
def atom? (reading : Reading) : List Char → Option (Atom × List Char)
  | '"' :: rest => (stringBody rest).map fun (body, rest) => (.text (String.ofList body), rest)
  | '-' :: rest => number? reading true rest
  | c :: rest =>
    if c = 'n' then (afterWord? "ull".toList rest).map (.null, ·)
    else if c = 't' then (afterWord? "rue".toList rest).map (.bool true, ·)
    else if c = 'f' then (afterWord? "alse".toList rest).map (.bool false, ·)
    else number? reading false (c :: rest)
  | [] => none

/-- How deep values may stand inside one another. -/
def depthLimit : Nat := 127

section
variable (reading : Reading)

mutual

/-- A value at the start of a text.  Others may stand inside, `depth` deep. -/
def value? : Nat → Nat → List Char → Option (Datum × List Char)
  | 0, _, _ => none
  | fuel + 1, depth, text =>
    match text with
    | '[' :: rest =>
      if depth = 0 then none
      else
        match skipSpace rest with
        | ']' :: rest => some (.list [], rest)
        | rest => (items? fuel (depth - 1) rest).map fun (items, rest) => (.list items, rest)
    | '\x7b' :: rest =>
      if depth = 0 then none
      else
        match skipSpace rest with
        | '\x7d' :: rest => some (.table [], rest)
        | rest => (entries? fuel (depth - 1) rest).map fun (entries, rest) => (.table (reading.settle entries), rest)
    | text => (atom? reading text).map fun (atom, rest) => (.atom atom, rest)

/-- Values with commas between them, up to the closing bracket. -/
def items? : Nat → Nat → List Char → Option (List Datum × List Char)
  | 0, _, _ => none
  | fuel + 1, depth, text =>
    match value? fuel depth text with
    | none => none
    | some (item, rest) =>
      match skipSpace rest with
      | ']' :: rest => some ([item], rest)
      | ',' :: rest => (items? fuel depth (skipSpace rest)).map fun (items, rest) => (item :: items, rest)
      | _ => none

/-- Entries with commas between them, up to the closing brace. -/
def entries? : Nat → Nat → List Char → Option (List (String × Datum) × List Char)
  | 0, _, _ => none
  | fuel + 1, depth, text =>
    match text with
    | '"' :: rest =>
      match stringBody rest with
      | none => none
      | some (key, rest) =>
        match skipSpace rest with
        | ':' :: rest =>
          match value? fuel depth (skipSpace rest) with
          | none => none
          | some (value, rest) =>
            match skipSpace rest with
            | '\x7d' :: rest => some ([(String.ofList key, value)], rest)
            | ',' :: rest =>
              (entries? fuel depth (skipSpace rest)).map fun (entries, rest) =>
                ((String.ofList key, value) :: entries, rest)
            | _ => none
        | _ => none
    | _ => none

end

/-- The value that a text says. -/
def Reading.read? (text : String) : Option Datum :=
  let chars := text.toList
  match value? reading (2 * chars.length + 2) depthLimit (skipSpace chars) with
  | some (datum, rest) => if (skipSpace rest).isEmpty then some datum else none
  | none => none

end

/-! ## Settings -/

/-- The entries without those that a later one with the same key replaces. -/
def lastEntries : List (String × Datum) → List (String × Datum)
  | [] => []
  | (key, value) :: rest =>
    if rest.any fun entry => entry.1 == key then lastEntries rest else (key, value) :: lastEntries rest

/-- Whole numbers have 64 bits, and the last one of repeated keys counts. -/
def Reading.settings : Reading := ⟨Number.isInt64, lastEntries⟩

def read? (text : String) : Option Datum :=
  Reading.settings.read? text

end TypedStatement.Json
