import TypedStatement.Text.Escape
import TypedStatement.Text.Identifier

/-!
# String literals

A string literal is read by a small machine, one character at a time: the state says where it stands with respect
to escapes, and every step may add characters to the value.  `encode` writes a text as a literal.

The same machine reads byte strings and strings that end in NUL; they differ in which escapes and characters they
admit (`Alphabet`).
-/

namespace TypedStatement.Source.StringLiteral
set_option autoImplicit false

open Text

/-- What a quoted literal may hold. -/
inductive Alphabet where
  /-- Characters; `\x` goes up to 7f. -/
  | characters
  /-- Bytes: ASCII characters and every `\x`, but no `\u`. -/
  | bytes
  /-- Anything but NUL. -/
  | nonNul
  deriving DecidableEq

/-- The value of a hexadecimal digit. -/
def hexValue? (c : Char) : Option Nat :=
  if '0' ≤ c ∧ c ≤ '9' then some (c.toNat - '0'.toNat)
  else if 'a' ≤ c ∧ c ≤ 'f' then some (10 + (c.toNat - 'a'.toNat))
  else if 'A' ≤ c ∧ c ≤ 'F' then some (10 + (c.toNat - 'A'.toNat))
  else none

/-- The character of a code point that is a scalar value. -/
def scalar? (code : Nat) : Option Char :=
  if h : code.isValidChar then some (Char.ofNatAux code h) else none

/-- Where the machine stands inside the quotes. -/
inductive State where
  | plain
  /-- After a carriage return, which a line feed must follow. -/
  | carriageReturn
  /-- After a backslash. -/
  | escape
  /-- After `\x`. -/
  | hexHigh
  /-- After `\x` and one digit. -/
  | hexLow (high : Nat)
  /-- After `\u`. -/
  | codeOpen
  /-- Inside `\u{…}`, after so many digits. -/
  | code (digits value : Nat)
  /-- After a backslash at the end of a line: blanks and line ends are skipped. -/
  | skip
  /-- While skipping, after a carriage return. -/
  | skipReturn
  deriving DecidableEq

/-- One step of the machine. -/
inductive Step where
  /-- The closing quote. -/
  | done
  /-- Go on in a state, with or without a character of the value. -/
  | next (state : State) (added : Option Char)
  | reject

/-- A step outside escapes. -/
def plainStep (alphabet : Alphabet) (c : Char) : Step :=
  if c = '"' then .done
  else if c = '\r' then .next .carriageReturn none
  else if c = '\\' then .next .escape none
  else if alphabet = .bytes ∧ 0x80 ≤ c.toNat then .reject
  else if alphabet = .nonNul ∧ c = '\x00' then .reject
  else .next .plain (some c)

/-- The character that a one-letter escape stands for. -/
def simpleEscape? (alphabet : Alphabet) (c : Char) : Option Char :=
  if c = 'n' then some '\n'
  else if c = 'r' then some '\r'
  else if c = 't' then some '\t'
  else if c = '0' ∧ alphabet ≠ .nonNul then some '\x00'
  else if c = '\\' ∨ c = '\'' ∨ c = '"' then some c
  else none

def escapeStep (alphabet : Alphabet) (c : Char) : Step :=
  if c = 'x' then .next .hexHigh none
  else if c = 'u' ∧ alphabet ≠ .bytes then .next .codeOpen none
  else if c = '\n' then .next .skip none
  else if c = '\r' then .next .skipReturn none
  else
    match simpleEscape? alphabet c with
    | some value => .next .plain (some value)
    | none => .reject

/-- A step inside `\u{…}`: one to six digits, with underscores anywhere but in front. -/
def codeStep (alphabet : Alphabet) (digits value : Nat) (c : Char) : Step :=
  if c = '_' ∧ 0 < digits then .next (.code digits value) none
  else if c = '}' ∧ 0 < digits then
    match scalar? value with
    | some char => if alphabet = .nonNul ∧ char = '\x00' then .reject else .next .plain (some char)
    | none => .reject
  else
    match hexValue? c with
    | some digit => if digits = 6 then .reject else .next (.code (digits + 1) (value * 16 + digit)) none
    | none => .reject

def step (alphabet : Alphabet) (state : State) (c : Char) : Step :=
  match state with
  | .plain => plainStep alphabet c
  | .carriageReturn => if c = '\n' then .next .plain (some '\n') else .reject
  | .escape => escapeStep alphabet c
  | .hexHigh =>
    match hexValue? c with
    | some high => if alphabet = .characters ∧ 8 ≤ high then .reject else .next (.hexLow high) none
    | none => .reject
  | .hexLow high =>
    match hexValue? c with
    | some low =>
      if alphabet = .nonNul ∧ high * 16 + low = 0 then .reject
      else .next .plain (some (Char.ofNat (high * 16 + low)))
    | none => .reject
  | .codeOpen => if c = '{' then .next (.code 0 0) none else .reject
  | .code digits value => codeStep alphabet digits value c
  | .skip =>
    if c = ' ' ∨ c = '\t' ∨ c = '\n' then .next .skip none
    else if c = '\r' then .next .skipReturn none
    else plainStep alphabet c
  | .skipReturn => if c = '\n' then .next .skip none else .reject

/-- Reads what is left of a literal: its value and the text after the closing quote. -/
def read (alphabet : Alphabet) (state : State) : List Char → Option (List Char × List Char)
  | [] => none
  | c :: rest =>
    match step alphabet state c with
    | .done => some ([], rest)
    | .reject => none
    | .next state' added =>
      match read alphabet state' rest with
      | none => none
      | some (value, after) => some (added.toList ++ value, after)

/-- Reads a raw literal after its opening quote: nothing is an escape, and it ends at a quote with `hashes` hash
signs after it. -/
def readRaw (alphabet : Alphabet) (hashes : Nat) : List Char → Option (List Char × List Char)
  | [] => none
  | '"' :: rest =>
    if (rest.take hashes).length = hashes ∧ (rest.take hashes).all (· == '#') then
      some ([], rest.drop hashes)
    else (readRaw alphabet hashes rest).map fun (value, after) => ('"' :: value, after)
  | '\r' :: '\n' :: rest => (readRaw alphabet hashes rest).map fun (value, after) => ('\r' :: '\n' :: value, after)
  | c :: rest =>
    if c = '\r' then none
    else if alphabet = .bytes ∧ 0x80 ≤ c.toNat then none
    else if alphabet = .nonNul ∧ c = '\x00' then none
    else (readRaw alphabet hashes rest).map fun (value, after) => (c :: value, after)

/-- The hash signs and the opening quote of a raw literal: how many there are, and the text after the quote. -/
def rawOpening (text : List Char) : Option (Nat × List Char) :=
  let hashes := (text.takeWhile (· == '#')).length
  match text.dropWhile (· == '#') with
  | '"' :: rest => if hashes ≤ 255 then some (hashes, rest) else none
  | _ => none

/-- The value of a literal that stands in quotes, or in raw quotes; a suffix is ignored. -/
def value? (literal : String) : Option String :=
  match literal.toList with
  | '"' :: rest => (read .characters .plain rest).map fun (value, _) => String.ofList value
  | 'r' :: rest =>
    match rawOpening rest with
    | some (hashes, body) => (readRaw .characters hashes body).map fun (value, _) => String.ofList value
    | none => none
  | _ => none

/-! ## Writing -/

/-- The characters of a text inside the quotes.  A NUL is `\0`, but `\x00` before an octal digit, with which it
could be misread. -/
def encodeBody : List Char → List Char
  | [] => []
  | c :: rest =>
    (if c = '\x00' ∧ rest.head?.any (fun next => '0' ≤ next && next ≤ '7') then "\\x00".toList else escapeChar c) ++
      encodeBody rest

def encode (text : String) : String :=
  String.ofList ('"' :: encodeBody text.toList ++ ['"'])

end TypedStatement.Source.StringLiteral
