/-!
# Scanners

A scanner takes characters from the front of a text, or fails.
-/

namespace TypedStatement.Text
set_option autoImplicit false

abbrev Scanner := StateT (List Char) Option

namespace Scanner

variable {α : Type}

/-- The next character, which stays. -/
def peek : Scanner (Option Char) := do
  return (← get).head?

/-- The next character. -/
def anyChar : Scanner Char := do
  match ← get with
  | c :: rest =>
    set rest
    return c
  | [] => failure

/-- Takes the characters of a word. -/
def word : List Char → Scanner Unit
  | [] => return ()
  | c :: rest => do
    if (← anyChar) = c then word rest else failure

/-- Takes one character. -/
def char (c : Char) : Scanner Unit := word [c]

/-- Takes the characters from here that belong to a class. -/
def takeAll (member : Char → Bool) : Scanner (List Char) := do
  let (taken, rest) := (← get).span member
  set rest
  return taken

/-- Takes at least one character of a class. -/
def takeSome (member : Char → Bool) : Scanner (List Char) := do
  let taken ← takeAll member
  if taken.isEmpty then failure else return taken

/-- Takes so many characters, all of a class. -/
def takeExactly (n : Nat) (member : Char → Bool) : Scanner (List Char) := do
  let text ← get
  let taken := text.take n
  if taken.length = n ∧ taken.all member then
    set (text.drop n)
    return taken
  else failure

/-- What the scanner finds here; if it fails, nothing is taken. -/
def optional (scanner : Scanner α) : Scanner (Option α) := fun text =>
  match scanner.run text with
  | some (value, rest) => some (some value, rest)
  | none => some (none, text)

/-- Takes a character if it is next. -/
def optionalChar (c : Char) : Scanner Bool := do
  return (← optional (char c)).isSome

/-- Repeats a scanner at most `limit` times, until it finds nothing. -/
def manyUpTo (limit : Nat) (one : Scanner (Option α)) : Scanner (List α) :=
  match limit with
  | 0 => return []
  | limit + 1 => do
    match ← one with
    | none => return []
    | some value => return value :: (← manyUpTo limit one)

/-- Repeats a scanner, which must take a character whenever it finds something, until it finds nothing. -/
def many (one : Scanner (Option α)) : Scanner (List α) := do
  manyUpTo ((← get).length + 1) one

/-- The value, if the scanner takes the whole text. -/
def all? (scanner : Scanner α) (text : List Char) : Option α :=
  match scanner.run text with
  | some (value, []) => some value
  | _ => none

end Scanner
end TypedStatement.Text
