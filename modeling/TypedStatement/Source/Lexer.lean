import TypedStatement.Source.Token
import TypedStatement.Source.StringLiteral
import TypedStatement.Source.Numeral
import TypedStatement.Text.WhiteSpace

/-!
# From text to tokens

A fragment is first cut into lexemes, where white space and comments separate and mean nothing, except that a
documentation comment stands for an attribute; then brackets are matched.  A text that cannot be cut, or whose
brackets do not match, has no tokens.
-/

namespace TypedStatement.Source
set_option autoImplicit false

open Text

/-! ## White space and comments -/

/-- Characters that separate tokens: white space and the two marks of writing direction. -/
def isBlank (c : Char) : Bool :=
  isWhiteSpace c || c.toNat == 0x200e || c.toNat == 0x200f

/-- The content and the rest of a block comment that is `depth` levels deep, up to the end of the outermost. -/
def blockComment (depth : Nat) : List Char → Option (List Char × List Char)
  | [] => none
  | '/' :: '*' :: rest => (blockComment (depth + 1) rest).map fun (inner, after) => ('/' :: '*' :: inner, after)
  | '*' :: '/' :: rest =>
    if depth ≤ 1 then some ([], rest)
    else (blockComment (depth - 1) rest).map fun (inner, after) => ('*' :: '/' :: inner, after)
  | c :: rest => (blockComment depth rest).map fun (inner, after) => (c :: inner, after)

/-- The line up to its end, which may be LF or CRLF, and the rest, which begins with the LF. -/
def lineComment : List Char → List Char × List Char
  | [] => ([], [])
  | '\n' :: rest => ([], '\n' :: rest)
  | '\r' :: '\n' :: rest => ([], '\n' :: rest)
  | c :: rest =>
    let (line, after) := lineComment rest
    (c :: line, after)

/-- A comment that documents, with what it says. -/
structure DocComment where
  /-- It documents what it stands in, not what follows it. -/
  inner : Bool
  text : List Char

/-- What a text begins with that carries no token. -/
inductive Gap where
  /-- White space or a comment, up to the rest. -/
  | blank (rest : List Char)
  | doc (comment : DocComment) (rest : List Char)
  /-- Neither. -/
  | none

/-- A line comment after its two slashes. -/
def lineGap (text : List Char) : Gap :=
  match text with
  | '!' :: body =>
    let (line, after) := lineComment body
    .doc ⟨true, line⟩ after
  | '/' :: body =>
    if body.head? = some '/' then .blank (lineComment text).2
    else
      let (line, after) := lineComment body
      .doc ⟨false, line⟩ after
  | _ => .blank (lineComment text).2

def blockGap (text : List Char) : Gap :=
  match blockComment 1 text with
  | Option.none => .none
  | some (body, after) =>
    match body with
    | '!' :: inner => .doc ⟨true, inner⟩ after
    | '*' :: inner => if inner.head? = some '*' then .blank after else .doc ⟨false, inner⟩ after
    | _ => .blank after

/-- What the text begins with, if that is no token. -/
def gap : List Char → Gap
  | [] => .none
  | '/' :: '/' :: rest => lineGap rest
  | '/' :: '*' :: '*' :: '/' :: rest => .blank rest
  | '/' :: '*' :: rest => blockGap rest
  | c :: rest => if isBlank c then .blank rest else .none

/-- Every carriage return is followed by a line feed. -/
def returnsPaired : List Char → Bool
  | [] => true
  | '\r' :: '\n' :: rest => returnsPaired rest
  | c :: rest => c != '\r' && returnsPaired rest

/-- The attribute that a documentation comment stands for. -/
def DocComment.tokens (comment : DocComment) : List Token :=
  Token.mark '#' :: (if comment.inner then [Token.mark '!'] else []) ++
    [Token.brackets [Token.word "doc", Token.mark '=',
      .literal (StringLiteral.encode (String.ofList comment.text))]]

/-! ## Literals -/

/-- The text after a character or byte literal, from behind its opening quote. -/
def afterCharacter (bytes : Bool) (text : List Char) : Option (List Char) :=
  let closed : List Char → Option (List Char)
    | '\'' :: rest => some (Numeral.skipWord rest)
    | _ => none
  let hex (limit : Nat) : List Char → Option (List Char)
    | high :: low :: rest =>
      match StringLiteral.hexValue? high, StringLiteral.hexValue? low with
      | some h, some _ => if h < limit then closed rest else none
      | _, _ => none
    | _ => none
  match text with
  | '\\' :: 'x' :: rest => hex (if bytes then 16 else 8) rest
  | '\\' :: 'u' :: '{' :: rest =>
    if bytes then none
    else
      let inside := rest.takeWhile (· != '}')
      let digits := inside.filter (· != '_')
      if inside.head? = some '_' ∨ digits.isEmpty ∨ 6 < digits.length then none
      else
        match digits.mapM StringLiteral.hexValue?, rest.dropWhile (· != '}') with
        | some values, _ :: after =>
          if (StringLiteral.scalar? (values.foldl (fun n d => n * 16 + d) 0)).isSome then closed after else none
        | _, _ => none
  | '\\' :: c :: rest => if ['n', 'r', 't', '\\', '0', '\'', '"'].contains c then closed rest else none
  | '\\' :: [] => none
  | c :: rest => if bytes && 0x80 ≤ c.toNat then none else closed rest
  | [] => none

/-- The text after a quoted literal, from behind its opening quote. -/
def afterQuoted (alphabet : StringLiteral.Alphabet) (text : List Char) : Option (List Char) :=
  (StringLiteral.read alphabet .plain text).map fun (_, rest) => Numeral.skipWord rest

/-- The text after a raw literal, from behind the `r`. -/
def afterRaw (alphabet : StringLiteral.Alphabet) (text : List Char) : Option (List Char) :=
  match StringLiteral.rawOpening text with
  | none => none
  | some (hashes, body) =>
    (StringLiteral.readRaw alphabet hashes body).map fun (_, rest) => Numeral.skipWord rest

/-- The text after the literal it begins with, if it begins with one. -/
def afterLiteral (text : List Char) : Option (List Char) :=
  let quotedLiteral := match text with
    | '"' :: rest => afterQuoted .characters rest
    | 'r' :: rest => afterRaw .characters rest
    | 'b' :: '"' :: rest => afterQuoted .bytes rest
    | 'b' :: 'r' :: rest => afterRaw .bytes rest
    | 'b' :: '\'' :: rest => afterCharacter true rest
    | 'c' :: '"' :: rest => afterQuoted .nonNul rest
    | 'c' :: 'r' :: rest => afterRaw .nonNul rest
    | '\'' :: rest => afterCharacter false rest
    | _ => none
  quotedLiteral <|> Numeral.float text <|> Numeral.integer text

/-! ## Words and punctuation -/

def neverRaw (name : List Char) : Bool :=
  ["_", "super", "self", "Self", "crate"].contains (String.ofList name)

/-- The identifier that the text begins with, and the rest. -/
def wordAt : List Char → Option (Ident × List Char)
  | 'r' :: '#' :: c :: rest =>
    if isIdentifierStart c then
      let name := c :: rest.takeWhile isIdentifierPart
      if neverRaw name then none
      else some (⟨String.ofList name, true⟩, rest.dropWhile isIdentifierPart)
    else none
  | 'r' :: '#' :: [] => none
  | c :: rest =>
    if isIdentifierStart c then
      some (⟨String.ofList (c :: rest.takeWhile isIdentifierPart), false⟩, rest.dropWhile isIdentifierPart)
    else none
  | [] => none

/-- Beginnings that promise a literal and are never an identifier. -/
def literalOpenings : List (List Char) :=
  ["r\"", "r#\"", "r##", "b\"", "b'", "br\"", "br#", "c\"", "cr\"", "cr#"].map String.toList

/-- The identifier that the text begins with, unless a literal was meant. -/
def identAt (text : List Char) : Option (Ident × List Char) :=
  if literalOpenings.any (·.isPrefixOf text) then none else wordAt text

/-- The punctuation character that the text begins with; the slash of a comment is none. -/
def punctAt : List Char → Option (Char × List Char)
  | '/' :: '/' :: _ => none
  | '/' :: '*' :: _ => none
  | c :: rest => if "~!@#$%^&*-=+|;:,<.>/?'".toList.contains c then some (c, rest) else none
  | [] => none

/-- The punctuation token that the text begins with.  A single quote begins a lifetime, after which neither a
closing quote nor a stray `#` may stand. -/
def punctuationAt (text : List Char) : Option (Token × List Char) :=
  match punctAt text with
  | none => none
  | some ('\'', rest) =>
    match wordAt rest with
    | none => none
    | some (_, after) =>
      if after.head? = some '\'' ∨ (after.head? = some '#' ∧ ¬ ['r', '#'].isPrefixOf rest) then none
      else some (.punct '\'' .joint, rest)
  | some (c, rest) => some (.punct c (if (punctAt rest).isSome then .joint else .alone), rest)

/-! ## Lexemes -/

inductive Lexeme where
  | opening (delimiter : Delimiter)
  | closing (delimiter : Delimiter)
  | tokens (tokens : List Token)
  /-- White space or a comment. -/
  | blank

/-- The token, other than a bracket, that the text begins with. -/
def leafAt (text : List Char) : Option (Lexeme × List Char) :=
  match afterLiteral text with
  | some rest => some (.tokens [.literal (String.ofList (text.take (text.length - rest.length)))], rest)
  | none =>
    match punctuationAt text with
    | some (token, rest) => some (.tokens [token], rest)
    | none => (identAt text).map fun (ident, rest) => (.tokens [.ident ident], rest)

def lexemeAt (text : List Char) : Option (Lexeme × List Char) :=
  match gap text with
  | .blank rest => some (.blank, rest)
  | .doc comment rest => if returnsPaired comment.text then some (.tokens comment.tokens, rest) else none
  | .none =>
    match text with
    | '(' :: rest => some (.opening .parenthesis, rest)
    | '[' :: rest => some (.opening .bracket, rest)
    | '{' :: rest => some (.opening .brace, rest)
    | ')' :: rest => some (.closing .parenthesis, rest)
    | ']' :: rest => some (.closing .bracket, rest)
    | '}' :: rest => some (.closing .brace, rest)
    | _ => leafAt text

def lexemes (text : List Char) : Option (List Lexeme) :=
  if text.isEmpty then some []
  else
    match lexemeAt text with
    | none => none
    | some (lexeme, rest) =>
      if rest.length < text.length then (lexemes rest).map (lexeme :: ·) else none
termination_by text.length

/-! ## Matching brackets -/

/-- Builds the token trees of the lexemes.  `current` holds the tokens of the innermost open group, and `outer`
the open groups around it with what stands before them; both latest first. -/
def nest (outer : List (Delimiter × List Token)) (current : List Token) :
    List Lexeme → Option (List Token)
  | [] => if outer.isEmpty then some current.reverse else none
  | .blank :: rest => nest outer current rest
  | .tokens tokens :: rest => nest outer (tokens.reverse ++ current) rest
  | .opening delimiter :: rest => nest ((delimiter, current) :: outer) [] rest
  | .closing delimiter :: rest =>
    match outer with
    | [] => none
    | (opened, before) :: outer' =>
      if opened = delimiter then nest outer' (.group opened current.reverse :: before) rest else none

/-- The tokens of a fragment; a byte order mark in front is dropped. -/
def tokens? (fragment : String) : Option (List Token) :=
  let text := match fragment.toList with
    | c :: rest => if c.toNat = 0xfeff then rest else c :: rest
    | [] => []
  (lexemes text).bind (nest [] [])

end TypedStatement.Source
