/-!
# Tokens of source fragments

Fragments of source (types, paths, items, attribute arguments) are read and written as token trees: words,
punctuation characters, literals, and groups in brackets.  A punctuation character that is *joint* belongs
together with the one after it, as in `::`.

`Token.written` is the one text form of a token tree.
-/

namespace TypedStatement.Source
set_option autoImplicit false

/-- An identifier; a raw one is written with `r#` in front and may be a keyword. -/
structure Ident where
  name : String
  raw : Bool
  deriving DecidableEq

/-- The identifier as it is written. -/
def Ident.text (ident : Ident) : String :=
  if ident.raw then "r#" ++ ident.name else ident.name

/-- An identifier that is not raw. -/
def Ident.plain (name : String) : Ident := ⟨name, false⟩

inductive Spacing where
  | alone
  | joint
  deriving DecidableEq

inductive Delimiter where
  | parenthesis
  | bracket
  | brace
  deriving DecidableEq

/-- The characters that open and close a group. -/
def Delimiter.open : Delimiter → Char
  | .parenthesis => '('
  | .bracket => '['
  | .brace => '{'

def Delimiter.close : Delimiter → Char
  | .parenthesis => ')'
  | .bracket => ']'
  | .brace => '}'

inductive Token where
  | ident (ident : Ident)
  | punct (char : Char) (spacing : Spacing)
  /-- A literal as it is written. -/
  | literal (text : String)
  | group (delimiter : Delimiter) (content : List Token)

namespace Token

/-- Whether the next token is written right after this one. -/
def isJoint : Token → Bool
  | .punct _ .joint => true
  | _ => false

mutual

/-- The text of a token; a group in braces has blanks inside them. -/
def written : Token → List Char
  | .ident name => name.text.toList
  | .punct c _ => [c]
  | .literal text => text.toList
  | .group .brace [] => ['{', ' ', '}']
  | .group .brace (token :: rest) => '{' :: ' ' :: (writtenAll (token :: rest) ++ [' ', '}'])
  | .group delimiter content => delimiter.open :: (writtenAll content ++ [delimiter.close])

/-- The text of a list of tokens: a blank between any two, except after a joint character. -/
def writtenAll : List Token → List Char
  | [] => []
  | [token] => token.written
  | token :: next :: rest =>
    token.written ++ (if token.isJoint then [] else [' ']) ++ writtenAll (next :: rest)

end

def text (tokens : List Token) : String :=
  String.ofList (writtenAll tokens)

/-! ## Building tokens -/

def word (name : String) : Token := .ident (.plain name)

/-- A punctuation character that stands alone. -/
def mark (c : Char) : Token := .punct c .alone

/-- An operator of one or more characters; the last is not joint. -/
def operator : List Char → List Token
  | [] => []
  | [c] => [.punct c .alone]
  | c :: rest => .punct c .joint :: operator rest

/-- The separator `::` of paths. -/
def pathSeparator : List Token := operator [':', ':']

/-- The arrow `->` of functions. -/
def arrow : List Token := operator ['-', '>']

/-- The lifetime of a name, written with a quote in front. -/
def lifetime (name : String) : List Token := [.punct '\'' .joint, word name]

def parens (content : List Token) : Token := .group .parenthesis content

def brackets (content : List Token) : Token := .group .bracket content

def braces (content : List Token) : Token := .group .brace content

/-- An attribute `#[…]`. -/
def hashBrackets (content : List Token) : List Token := [mark '#', brackets content]

end Token
end TypedStatement.Source
