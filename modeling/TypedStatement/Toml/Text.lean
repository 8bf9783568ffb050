import TypedStatement.Text.Scanner
import TypedStatement.Number.Literal

/-!
# Text in TOML

White space, line breaks and the four kinds of strings.
-/

namespace TypedStatement.Toml
set_option autoImplicit false

open Text (Scanner)

/-! ## Characters -/

def isBlank (c : Char) : Bool := c == ' ' || c == '\t'

/-- Whether the character may stand in comments and strings as it is: it is no control character, or a tab. -/
def isPlain (c : Char) : Bool := c == '\t' || (0x20 ≤ c.toNat && c.toNat != 0x7F)

/-- Whether the character may stand in a key without quotation marks. -/
def isBare (c : Char) : Bool := c.isAlphanum || c == '-' || c == '_'

def blanks : Scanner Unit := do
  let _ ← Scanner.takeAll isBlank

/-- A line break, with or without carriage return. -/
def lineBreak : Scanner Unit := do
  let _ ← Scanner.optionalChar '\r'
  Scanner.char '\n'

/-- A comment up to the end of its line. -/
def comment : Scanner Unit := do
  Scanner.char '#'
  let _ ← Scanner.takeAll isPlain

/-- White space, line breaks and comments. -/
def filler : Scanner Unit := do
  let _ ← Scanner.many do
    blanks
    match ← Scanner.peek with
    | some '#' =>
      comment
      lineBreak
      return some ()
    | some '\n' =>
      lineBreak
      return some ()
    | some '\r' =>
      lineBreak
      return some ()
    | _ => return none

/-! ## Escapes -/

def isHexDigit (c : Char) : Bool :=
  c.isDigit || ('a' ≤ c && c ≤ 'f') || ('A' ≤ c && c ≤ 'F')

/-- The character whose number so many hexadecimal digits say. -/
def numberedChar (digits : Nat) : Scanner Char := do
  let n := Number.digitsValue 16 (← Scanner.takeExactly digits isHexDigit)
  if n.isValidChar then return Char.ofNat n else failure

/-- What a backslash and the characters after it stand for; the backslash is taken already. -/
def escape : Scanner Char := do
  match ← Scanner.anyChar with
  | 'b' => return '\x08'
  | 't' => return '\t'
  | 'n' => return '\n'
  | 'f' => return '\x0c'
  | 'r' => return '\r'
  | '"' => return '"'
  | '\\' => return '\\'
  | 'u' => numberedChar 4
  | 'U' => numberedChar 8
  | _ => failure

/-! ## Strings on one line -/

/-- The text between two marks, without escapes. -/
def literalString : Scanner (List Char) := do
  Scanner.char '\''
  let text ← Scanner.takeAll fun c => isPlain c && c != '\''
  Scanner.char '\''
  return text

/-- The text between two quotation marks, with escapes. -/
def basicString : Scanner (List Char) := do
  Scanner.char '"'
  let pieces ← Scanner.many do
    match ← Scanner.peek with
    | some '\\' =>
      Scanner.char '\\'
      return some [← escape]
    | some '"' => return none
    | _ => Scanner.optional (Scanner.takeSome fun c => isPlain c && c != '"' && c != '\\')
  Scanner.char '"'
  return pieces.flatten

/-! ## Strings on several lines -/

/-- The marks from here, which are at most two; three or more end the string and stay. -/
def innerMarks (mark : Char) : Scanner (Option (List Char)) := do
  let marks := (← get).takeWhile (· == mark)
  if marks.length < 3 then
    Scanner.word marks
    return some marks
  else return none

/-- The end of a string: three marks.  Up to two marks before them belong to the text. -/
def lastMarks (mark : Char) : Scanner (List Char) := do
  let marks := ((← get).takeWhile (· == mark)).take 5
  Scanner.word marks
  if marks.length < 3 then failure else return marks.drop 3

/-- A line break that is part of the text. -/
def innerBreak : Scanner (Option (List Char)) := do
  lineBreak
  return some ['\n']

/-- A backslash at the end of a line, and all white space after it. -/
def continuation : Scanner Unit := do
  Scanner.char '\\'
  blanks
  lineBreak
  let _ ← Scanner.many do
    match ← Scanner.peek with
    | some ' ' =>
      blanks
      return some ()
    | some '\t' =>
      blanks
      return some ()
    | _ => Scanner.optional lineBreak

/-- A piece of a string of several lines; `escapes` says whether a backslash is special. -/
def linesPiece (mark : Char) (escapes : Bool) : Scanner (Option (List Char)) := do
  match ← Scanner.peek with
  | some c =>
    if c = mark then innerMarks mark
    else if c = '\n' ∨ c = '\r' then innerBreak
    else if c = '\\' ∧ escapes then
      if (← Scanner.optional continuation).isSome then return some []
      else
        Scanner.char '\\'
        return some [← escape]
    else Scanner.optional (Scanner.takeSome fun c => isPlain c && c != mark && !(escapes && c == '\\'))
  | none => return none

/-- A string between three marks on each side; a line break right after the first three is dropped. -/
def linesString (mark : Char) (escapes : Bool) : Scanner (List Char) := do
  Scanner.word [mark, mark, mark]
  let _ ← Scanner.optional lineBreak
  let pieces ← Scanner.many (linesPiece mark escapes)
  return pieces.flatten ++ (← lastMarks mark)

/-- A string of any kind. -/
def string : Scanner (List Char) := do
  let text ← get
  if text.take 3 = ['"', '"', '"'] then linesString '"' true
  else if text.take 3 = ['\'', '\'', '\''] then linesString '\'' false
  else if text.head? = some '"' then basicString
  else literalString

end TypedStatement.Toml
