import TypedStatement.Source.Lexer
import TypedStatement.Source.Path

/-!
# Reading source fragments

A reader takes tokens from the front of a list.  What it refuses is said by a `FragmentError`: which token was
expected where, and whether the fragment had ended there.
-/

namespace TypedStatement.Source
set_option autoImplicit false

/-! ## Errors -/

inductive FragmentError where
  /-- The text has no tokens: a character, literal or bracket is wrong. -/
  | notTokens
  /-- Tokens are left over after a complete fragment. -/
  | leftOver
  /-- A keyword stands where an identifier must stand. -/
  | keyword (word : String)
  /-- None of the alternatives stands here. -/
  | expected (atEnd : Bool) (alternatives : List String)
  /-- Another reason. -/
  | refused (atEnd : Bool) (reason : String)
  deriving DecidableEq

def FragmentError.list (atEnd : Bool) : List String → String
  | [] => if atEnd then "unexpected end of input" else "unexpected token"
  | alternatives =>
    (if atEnd then "unexpected end of input, " else "") ++
      match alternatives with
      | [one] => "expected " ++ one
      | [one, other] => "expected " ++ one ++ " or " ++ other
      | many => "expected one of: " ++ String.intercalate ", " many

def FragmentError.message : FragmentError → String
  | .notTokens => "cannot parse string into token stream"
  | .leftOver => "unexpected token"
  | .keyword word => "expected identifier, found keyword `" ++ word ++ "`"
  | .expected atEnd alternatives => FragmentError.list atEnd alternatives
  | .refused atEnd reason => (if atEnd then "unexpected end of input, " else "") ++ reason

/-! ## Keywords -/

/-- The words that are no identifiers. -/
def keywords : List String :=
  ["_", "abstract", "as", "async", "await", "become", "box", "break", "const", "continue", "crate", "do", "dyn",
   "else", "enum", "extern", "false", "final", "fn", "for", "if", "impl", "in", "let", "loop", "macro", "match",
   "mod", "move", "mut", "override", "priv", "pub", "ref", "return", "Self", "self", "static", "struct", "super",
   "trait", "true", "try", "type", "typeof", "unsafe", "unsized", "use", "virtual", "where", "while", "yield"]

/-- Whether the word may be used as an identifier. -/
def Ident.isUsable (ident : Ident) : Bool :=
  ident.raw || !keywords.contains ident.name

/-! ## Looking at the next token -/

/-- Whether the tokens begin with the operator: all its characters but the last must be joint. -/
def startsWith (operator : List Char) (tokens : List Token) : Bool :=
  match operator, tokens with
  | [], _ => true
  | [c], .punct p _ :: _ => p == c
  | c :: rest, .punct p .joint :: later => p == c && startsWith rest later
  | _, _ => false

namespace Token

def isWord (name : String) : Token → Bool
  | .ident found => found == .plain name
  | _ => false

def isUsableIdent : Token → Bool
  | .ident found => found.isUsable
  | _ => false

def isAnyIdent : Token → Bool
  | .ident _ => true
  | _ => false

def isGroup (delimiter : Delimiter) : Token → Bool
  | .group found _ => found == delimiter
  | _ => false

/-- A literal, or one of the words `true` and `false`. -/
def isLiteral : Token → Bool
  | .literal _ => true
  | .ident found => found == .plain "true" || found == .plain "false"
  | _ => false

/-- The text of a literal, if it is a string literal, cooked or raw. -/
def stringLiteral? : Token → Option String
  | .literal text => StringLiteral.value? text
  | _ => none

end Token

/-- Whether a lifetime begins here. -/
def startsLifetime : List Token → Bool
  | .punct '\'' _ :: .ident _ :: _ => true
  | _ => false

/-- Whether a literal begins here, perhaps with a minus sign in front. -/
def startsLiteral : List Token → Bool
  | .punct '-' _ :: .literal text :: _ => text.toList.head?.any Char.isDigit
  | token :: _ => token.isLiteral
  | [] => false

/-! ## Readers -/

/-- Takes tokens from the front, or refuses them. -/
abbrev Reader := StateT (List Token) (Except FragmentError)

namespace Reader

variable {α : Type}

/-- Refuses what stands here, for want of the alternatives. -/
def expected (alternatives : List String) : Reader α := do
  throw (.expected (← get).isEmpty alternatives)

/-- Refuses what stands here for a reason. -/
def refused (reason : String) : Reader α := do
  throw (.refused (← get).isEmpty reason)

def next (test : Token → Bool) : Reader Bool := do
  return (← get).head?.any test

/-- Whether the second token from here satisfies the test. -/
def second (test : Token → Bool) : Reader Bool := do
  return ((← get).drop 1).head?.any test

/-- Whether the operator stands here. -/
def sees (operator : String) : Reader Bool := do
  return startsWith operator.toList (← get)

/-- Whether the word stands here. -/
def seesWord (name : String) : Reader Bool := next (·.isWord name)

def seesGroup (delimiter : Delimiter) : Reader Bool := next (·.isGroup delimiter)

def atEnd : Reader Bool := do
  return (← get).isEmpty

def operator (text : String) : Reader (List Token) := do
  let tokens ← get
  if startsWith text.toList tokens then
    set (tokens.drop text.length)
    return Token.operator text.toList
  else expected ["`" ++ text ++ "`"]

/-- Takes the operator if it stands here. -/
def operator? (text : String) : Reader (List Token) := do
  if ← sees text then operator text else return []

/-- Takes one word. -/
def keyword (name : String) : Reader (List Token) := do
  match ← get with
  | token :: rest =>
    if token.isWord name then
      set rest
      return [token]
    else expected ["`" ++ name ++ "`"]
  | [] => expected ["`" ++ name ++ "`"]

/-- Takes the word if it stands here. -/
def keyword? (name : String) : Reader (List Token) := do
  if ← seesWord name then keyword name else return []

/-- Takes any identifier, be it a keyword. -/
def anyIdent : Reader Ident := do
  match ← get with
  | .ident ident :: rest =>
    set rest
    return ident
  | _ => expected ["identifier"]

/-- Takes an identifier that is no keyword. -/
def ident : Reader Ident := do
  match ← get with
  | .ident ident :: rest =>
    if ident.isUsable then
      set rest
      return ident
    else throw (.keyword ident.text)
  | _ => expected ["identifier"]

def lifetime : Reader (List Token) := do
  match ← get with
  | .punct '\'' _ :: .ident ident :: rest =>
    set rest
    return [.punct '\'' .joint, .ident ident]
  | _ => expected ["lifetime"]

/-- Takes a literal, perhaps with a minus sign in front. -/
def literal : Reader (List Token) := do
  let tokens ← get
  match tokens with
  | .punct '-' _ :: .literal text :: rest =>
    if startsLiteral tokens then
      set rest
      return [Token.mark '-', .literal text]
    else expected ["literal"]
  | token :: rest =>
    if token.isLiteral then
      set rest
      return [token]
    else expected ["literal"]
  | [] => expected ["literal"]

def groupName : Delimiter → String
  | .parenthesis => "parentheses"
  | .bracket => "square brackets"
  | .brace => "curly braces"

/-- Takes a group, and reads all of its content. -/
def group (delimiter : Delimiter) (inside : Reader α) : Reader α := do
  match ← get with
  | .group found content :: rest =>
    if found = delimiter then
      match inside.run content with
      | .error error => throw error
      | .ok (value, []) =>
        set rest
        return value
      | .ok (_, _ :: _) => throw .leftOver
    else expected [groupName delimiter]
  | _ => expected [groupName delimiter]

def anyGroup : Reader Token := do
  match ← get with
  | .group delimiter content :: rest =>
    set rest
    return .group delimiter content
  | _ => expected ["delimiter"]

/-- Repeats a reader at most `limit` times: until it answers nothing, or answers a value together with `false`. -/
def chainUpTo (limit : Nat) (one : Reader (Option (α × Bool))) : Reader (List α) :=
  match limit with
  | 0 => return []
  | limit + 1 => do
    match ← one with
    | none => return []
    | some (value, false) => return [value]
    | some (value, true) => return value :: (← chainUpTo limit one)

/-- Repeats a reader, which must take a token whenever it answers a value together with `true`. -/
def chain (one : Reader (Option (α × Bool))) : Reader (List α) := do
  chainUpTo ((← get).length + 1) one

/-- Repeats a reader, which must take a token whenever it answers something, until it answers nothing. -/
def many (one : Reader (Option α)) : Reader (List α) :=
  chain do return (← one).map (·, true)

/-- Reads values separated by commas up to the end; a comma may follow the last one. -/
def separated (one : Reader (List Token)) : Reader (List Token) := do
  let parts ← many do
    if ← atEnd then return none
    let value ← one
    if ← atEnd then return some value
    return some (value ++ (← operator ","))
  return parts.flatten

/-- Reads a whole list of tokens. -/
def all (reader : Reader α) (tokens : List Token) : Except FragmentError α :=
  match reader.run tokens with
  | .error error => .error error
  | .ok (value, []) => .ok value
  | .ok (_, _ :: _) => .error .leftOver

/-- Reads a whole text. -/
def parse (reader : Reader α) (text : String) : Except FragmentError α :=
  match tokens? text with
  | none => .error .notTokens
  | some tokens => reader.all tokens

end Reader
end TypedStatement.Source
