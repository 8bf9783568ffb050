import TypedStatement.Datum

/-!
# JSON text

Data are written without blanks.  In strings only quotation marks, backslashes and control characters are escaped.
-/

namespace TypedStatement.Json
set_option autoImplicit false

/-- The letter that stands for a control character after a backslash. -/
def shortEscape? (c : Char) : Option Char :=
  if c = '\x08' then some 'b'
  else if c = '\t' then some 't'
  else if c = '\n' then some 'n'
  else if c = '\x0c' then some 'f'
  else if c = '\r' then some 'r'
  else none

/-- A digit of a number below sixteen. -/
def hexDigit (n : Nat) : Char :=
  if n < 10 then Char.ofNat ('0'.toNat + n) else Char.ofNat ('a'.toNat + (n - 10))

/-- A character inside quotation marks. -/
def escapeChar (c : Char) : List Char :=
  if c = '"' ∨ c = '\\' then ['\\', c]
  else if c.toNat < 0x20 then
    match shortEscape? c with
    | some letter => ['\\', letter]
    | none => ['\\', 'u', '0', '0', hexDigit (c.toNat / 16), hexDigit (c.toNat % 16)]
  else [c]

/-- A text in quotation marks. -/
def quoteChars (text : String) : List Char :=
  '"' :: (text.toList.flatMap escapeChar ++ ['"'])

/-- A whole number in decimal digits. -/
def intChars (value : Int) : List Char :=
  match value with
  | .ofNat n => Nat.toDigits 10 n
  | .negSucc n => '-' :: Nat.toDigits 10 (n + 1)

def atomChars : Atom → List Char
  | .null => "null".toList
  | .bool true => "true".toList
  | .bool false => "false".toList
  | .int value => intChars value
  | .float value =>
    match value with
    | .finite .. => value.pointedText.toList
    | _ => "null".toList
  | .text value => quoteChars value

mutual

def chars : Datum → List Char
  | .atom value => atomChars value
  | .list [] => ['[', ']']
  | .list (first :: rest) => '[' :: (chars first ++ itemChars rest)
  | .table [] => ['\x7b', '\x7d']
  | .table ((key, value) :: rest) => '\x7b' :: (quoteChars key ++ ':' :: (chars value ++ entryChars rest))

/-- The items after the first, and the closing bracket. -/
def itemChars : List Datum → List Char
  | [] => [']']
  | item :: rest => ',' :: (chars item ++ itemChars rest)

/-- The entries after the first, and the closing brace. -/
def entryChars : List (String × Datum) → List Char
  | [] => ['\x7d']
  | (key, value) :: rest => ',' :: (quoteChars key ++ ':' :: (chars value ++ entryChars rest))

end

/-- The data as JSON. -/
def write (datum : Datum) : String :=
  String.ofList (chars datum)

end TypedStatement.Json
