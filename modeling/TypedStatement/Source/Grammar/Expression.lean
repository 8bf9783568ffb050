import TypedStatement.Source.Grammar.Pattern

/-!
# Expressions and blocks

An expression is read as operands with operators between them; how operators bind does not change the tokens, only
which form the whole expression has.
-/

namespace TypedStatement.Source.Grammar
set_option autoImplicit false

open Reader

/-! ## Operators -/

/-- Operators that compare, which cannot be chained. -/
def comparisons : List String := ["==", "<=", "!=", ">=", "<", ">"]

/-- Operators between two operands, longer ones before their beginnings. -/
def binaryOperators : List String :=
  ["<<=", ">>=", "+=", "-=", "*=", "/=", "%=", "^=", "&=", "|=", "&&", "||", "<<", ">>", "==", "<=", "!=", ">=",
   "+", "-", "*", "/", "%", "^", "&", "|", "<", ">"]

def assigning : List String := ["<<=", ">>=", "+=", "-=", "*=", "/=", "%=", "^=", "&=", "|="]

/-- The operator that stands here. -/
def seesBinary : Reader (Option String) := do
  let tokens ← get
  return binaryOperators.find? fun operator => startsWith operator.toList tokens

/-- How loosely the top of an expression binds. -/
inductive Looseness where
  | operand
  | cast
  | binary
  | range
  | assignment
  deriving DecidableEq

def Looseness.rank : Looseness → Nat
  | .operand => 0
  | .cast => 1
  | .binary => 2
  | .range => 3
  | .assignment => 4

variable (table : Table)

/-! ## Operands -/

/-- Whether an expression may begin here. -/
def seesExpression : Reader Bool := do
  let tokens ← get
  let word ← next fun token => token.isAnyIdent && !token.isWord "as"
  let opened ← next fun token => token.isGroup .parenthesis || token.isGroup .bracket || token.isGroup .brace ||
    token.isLiteral
  let sign := (startsWith ['!'] tokens && !startsWith ['!', '='] tokens) ||
    (startsWith ['-'] tokens && !startsWith ['-', '='] tokens && !startsWith ['-', '>'] tokens) ||
    (startsWith ['*'] tokens && !startsWith ['*', '='] tokens) ||
    (startsWith ['|'] tokens && !startsWith ['|', '='] tokens) ||
    (startsWith ['&'] tokens && !startsWith ['&', '='] tokens) ||
    startsWith ['.', '.'] tokens ||
    (startsWith ['<'] tokens && !startsWith ['<', '='] tokens && !startsWith ['<', '<', '='] tokens) ||
    startsWith [':', ':'] tokens || startsWith ['#'] tokens
  return word || opened || sign || startsLifetime tokens

/-- A field of a record, by name or by number. -/
def member : Reader Token := do
  match ← get with
  | .literal text :: rest =>
    if text.toList.all Char.isDigit then
      set rest
      return .literal text
    else expected ["identifier", "integer literal"]
  | token :: _ =>
    if token.isUsableIdent then return .ident (← ident) else expected ["identifier", "integer literal"]
  | [] => expected ["identifier", "integer literal"]

def fieldValue : Reader (List Token) := do
  let attributes ← outerAttributes table
  if ← sees ".." then
    let dots ← operator ".."
    if ← atEnd then return attributes ++ dots
    return attributes ++ dots ++ (← table.tokens (.expression true))
  let name ← member
  if ← sees ":" then
    let colon ← operator ":"
    return attributes ++ name :: (colon ++ (← table.tokens (.expression true)))
  return attributes ++ [name]

/-- A path, a macro call or a record. -/
def pathExpression (records : Bool) : Reader Reading := do
  let reading ← qualifiedPath table true
  let modulePath := match reading.shape with
    | .path found => found.segments.all fun s => s.arguments.isNone
    | _ => false
  if modulePath && (← sees "!") && !(← sees "!=") then
    let bang ← operator "!"
    let arguments ← anyGroup
    return ⟨reading.tokens ++ bang ++ [arguments], .macroCall (arguments.isGroup .brace)⟩
  if records && (← seesGroup .brace) then
    let fields ← group .brace (separated (fieldValue table))
    return ⟨reading.tokens ++ [Token.braces fields], .form "struct"⟩
  return reading

/-- An expression in round brackets, or a tuple. -/
def parenthesizedExpression : Reader Reading := do
  let (content, form) ← group .parenthesis do
    if ← atEnd then return ([], "tuple")
    let first ← table.tokens (.expression true)
    if ← atEnd then return (first, "paren")
    let comma ← operator ","
    return (first ++ comma ++ (← separated (table.tokens (.expression true))), "tuple")
  return ⟨[Token.parens content], .form form⟩

/-- An array, by its elements or by one element and a length. -/
def bracketedExpression : Reader Reading := do
  let (content, form) ← group .bracket do
    if ← atEnd then return ([], "array")
    let first ← table.tokens (.expression true)
    if ← atEnd then return (first, "array")
    if ← sees "," then
      let comma ← operator ","
      return (first ++ comma ++ (← separated (table.tokens (.expression true))), "array")
    if ← sees ";" then
      let semicolon ← operator ";"
      return (first ++ semicolon ++ (← table.tokens (.expression true)), "repeat")
    expected ["`,`", "`;`"]
  return ⟨[Token.brackets content], .form form⟩

def closureArgument : Reader (List Token) := do
  let attributes ← outerAttributes table
  let pattern ← table.tokens .pattern
  if ← sees ":" then
    let colon ← operator ":"
    return attributes ++ pattern ++ colon ++ (← table.tokens (.type true))
  return attributes ++ pattern

def closure (records : Bool) : Reader Reading := do
  let lifetimes ← binder
  let constness ← keyword? "const"
  let movability ← keyword? "static"
  let asyncness ← keyword? "async"
  let capture ← keyword? "move"
  let opening ← operator "|"
  let arguments ← chain do
    if ← sees "|" then return none
    let one ← closureArgument table
    if ← sees "|" then return some (one, false)
    return some (one ++ (← operator ","), true)
  let closing ← operator "|"
  let head := lifetimes ++ constness ++ movability ++ asyncness ++ capture ++ opening ++ arguments.flatten ++ closing
  if ← sees "->" then
    let arrow ← operator "->"
    let type ← table.tokens (.type true)
    return ⟨head ++ arrow ++ type ++ (← table.tokens .block), .form "closure"⟩
  return ⟨head ++ (← table.tokens (.expression records)), .form "closure"⟩

/-- `if`, with its branches. -/
def conditional : Nat → Reader (List Token)
  | 0 => refused "expected an expression"
  | fuel + 1 => do
    let head ← keyword "if"
    let condition ← table.tokens (.expression false)
    let branch ← table.tokens .block
    if ← seesWord "else" then
      let otherwise ← keyword "else"
      if ← seesWord "if" then return head ++ condition ++ branch ++ otherwise ++ (← conditional fuel)
      if ← seesGroup .brace then return head ++ condition ++ branch ++ otherwise ++ (← table.tokens .block)
      expected ["`if`", "curly braces"]
    return head ++ condition ++ branch

/-- An arm of a `match`; `body` reads its value. -/
def arm (body : Reader Reading) : Reader (List Token) := do
  let attributes ← outerAttributes table
  let pattern ← alternatives (table.tokens .pattern)
  let guard ← if ← seesWord "if" then do
      let head ← keyword "if"
      pure (head ++ (← table.tokens (.expression true)))
    else pure []
  let arrow ← operator "=>"
  let value ← body
  let comma ← if !(← atEnd) && !value.shape.endsArm then operator "," else operator? ","
  return attributes ++ pattern ++ guard ++ arrow ++ value.tokens ++ comma

def matching (body : Reader Reading) : Reader Reading := do
  let head ← keyword "match"
  let subject ← table.tokens (.expression false)
  let arms ← group .brace do
    let attributes ← innerAttributes table
    let arms ← many do
      if ← atEnd then return none
      return some (← arm table body)
    return attributes ++ arms.flatten
  return ⟨head ++ subject ++ [Token.braces arms], .form "match"⟩

def loopOrBlock (label : List Token) : Reader Reading := do
  if ← seesWord "while" then
    let head ← keyword "while"
    let condition ← table.tokens (.expression false)
    return ⟨label ++ head ++ condition ++ (← table.tokens .block), .form "while"⟩
  else if ← seesWord "for" then
    let head ← keyword "for"
    let pattern ← alternatives (table.tokens .pattern)
    let inside ← keyword "in"
    let source ← table.tokens (.expression false)
    return ⟨label ++ head ++ pattern ++ inside ++ source ++ (← table.tokens .block), .form "for_loop"⟩
  else if ← seesWord "loop" then
    let head ← keyword "loop"
    return ⟨label ++ head ++ (← table.tokens .block), .form "loop"⟩
  else return ⟨label ++ (← table.tokens .block), .form "block"⟩

/-- A word that jumps, with its label and its value. -/
def jump (name : String) (records : Bool) : Reader Reading := do
  let head ← keyword name
  let label ← if name != "return" && name != "yield" && startsLifetime (← get) then lifetime else pure []
  if name != "continue" && (← seesExpression) && (records || !(← seesGroup .brace)) then
    return ⟨head ++ label ++ (← table.tokens (.expression records)), .form name⟩
  return ⟨head ++ label, .form name⟩

/-- Whether a closure begins here. -/
def seesClosure : Reader Bool := do
  return (← sees "|") || (← seesWord "move") ||
    ((← seesWord "for") && (← second (isMark '<')) &&
      (← third fun token => isMark '\'' token || isMark '>' token)) ||
    ((← seesWord "const") && !(← second (·.isGroup .brace))) || (← seesWord "static") ||
    ((← seesWord "async") && (← second fun token => isMark '|' token || token.isWord "move"))

/-- An operand without signs before it and without what may follow it. -/
def atom (records : Bool) (body : Reader Reading) : Reader Reading := do
  let tokens ← get
  match tokens with
  | token :: rest =>
    if token.isLiteral then
      set rest
      match token with
      | .literal text => return ⟨[token], .literal text⟩
      | .ident name => return ⟨[token], .literal name.name⟩
      | _ => return ⟨[token], .form "lit"⟩
  | [] => pure ()
  if (← seesWord "async") && ((← second (·.isGroup .brace)) ||
      ((← second (·.isWord "move")) && (← third (·.isGroup .brace)))) then
    let head ← keyword "async"
    let capture ← keyword? "move"
    return ⟨head ++ capture ++ (← table.tokens .block), .form "async"⟩
  else if (← seesWord "try") && (← second (·.isGroup .brace)) then
    return ⟨(← keyword "try") ++ (← table.tokens .block), .form "try_block"⟩
  else if ← seesClosure then closure table records
  else if (← seesWord "builtin") && (← second (isMark '#')) then
    let head ← keyword "builtin"
    let mark ← operator "#"
    let name ← ident
    let arguments ← group .parenthesis everything
    return ⟨head ++ mark ++ [.ident name, Token.parens arguments], .form "verbatim"⟩
  else if (← next fun token => token.isUsableIdent || ["self", "Self", "super", "crate"].any (token.isWord ·)) ||
      (← sees "::") || (← sees "<") then
    pathExpression table records
  else if ← seesGroup .parenthesis then parenthesizedExpression table
  else if ← seesWord "break" then jump table "break" records
  else if ← seesWord "continue" then jump table "continue" records
  else if ← seesWord "return" then jump table "return" records
  else if ← seesWord "become" then
    return ⟨(← keyword "become") ++ (← table.tokens (.expression true)), .form "verbatim"⟩
  else if ← seesGroup .bracket then bracketedExpression table
  else if ← seesWord "let" then
    let head ← keyword "let"
    let pattern ← alternatives (table.tokens .pattern)
    let equals ← operator "="
    return ⟨head ++ pattern ++ equals ++ (← table.tokens (.expression records)), .form "let"⟩
  else if ← seesWord "if" then
    return ⟨← conditional table ((← get).length + 1), .form "if"⟩
  else if ← next fun token => ["while", "for", "loop"].any (token.isWord ·) then loopOrBlock table []
  else if ← seesWord "match" then matching table body
  else if ← seesWord "yield" then jump table "yield" records
  else if ← seesWord "unsafe" then
    return ⟨(← keyword "unsafe") ++ (← table.tokens .block), .form "unsafe"⟩
  else if ← seesWord "const" then
    return ⟨(← keyword "const") ++ (← table.tokens .block), .form "const"⟩
  else if ← seesGroup .brace then return ⟨← table.tokens .block, .form "block"⟩
  else if ← sees ".." then
    let dots ← if ← sees "..=" then operator "..=" else operator ".."
    if ← seesExpression then
      return ⟨dots ++ (← table.tokens (.expression records)), .form "range"⟩
    return ⟨dots, .form "range"⟩
  else if ← seesWord "_" then return ⟨← keyword "_", .form "infer"⟩
  else if startsLifetime (← get) then
    let label ← lifetime
    let colon ← operator ":"
    loopOrBlock table (label ++ colon)
  else refused "expected an expression"

/-- A floating point literal after a point is two field numbers. -/
def splitFieldNumbers (text : String) : List Token :=
  match text.splitOn "." with
  | [first, last] => [.literal first, Token.mark '.', .literal last]
  | _ => [.literal text]

/-- What may follow an operand: calls, fields, indices and `?`. -/
def trailers (operand : Reading) : Reader Reading := do
  let steps ← many do
    if ← seesGroup .parenthesis then
      let arguments ← group .parenthesis (separated (table.tokens (.expression true)))
      return some ([Token.parens arguments], "call")
    else if (← sees ".") && !(← sees "..") then
      let dot ← operator "."
      match ← get with
      | .literal text :: rest =>
        if text.toList.contains '.' then
          set rest
          return some (dot ++ splitFieldNumbers text, "field")
      | _ => pure ()
      if ← seesWord "await" then return some (dot ++ (← keyword "await"), "await")
      let name ← member
      let turbofish ← if name.isAnyIdent && (← sees "::") then do
          let separator ← operator "::"
          let entries ← angleEntries (genericArgument table (bound table))
          pure (separator ++ Token.mark '<' :: (Entry.lifetimesFirst entries ++ [Token.mark '>']))
        else pure []
      if name.isAnyIdent && (!turbofish.isEmpty || (← seesGroup .parenthesis)) then
        let arguments ← group .parenthesis (separated (table.tokens (.expression true)))
        return some (dot ++ name :: (turbofish ++ [Token.parens arguments]), "method_call")
      return some (dot ++ [name], "field")
    else if ← seesGroup .bracket then
      let index ← group .bracket (table.tokens (.expression true))
      return some ([Token.brackets index], "index")
    else if ← sees "?" then return some (← operator "?", "try")
    else return none
  match steps.getLast? with
  | none => return operand
  | some (_, form) => return ⟨operand.tokens ++ (steps.map (·.1)).flatten, .form form⟩

/-- The signs before an operand, and whether the first of them takes a reference. -/
def signs : Reader (List Token × Option String) := do
  let found ← many do
    let attributes ← outerAttributes table
    if ← sees "&" then
      let sign ← operator "&"
      let raw ← if (← seesWord "raw") && (← second fun t => t.isWord "mut" || t.isWord "const") then do
          let head ← keyword "raw"
          let qualifier ← if ← seesWord "const" then keyword "const" else pure []
          pure (head ++ qualifier)
        else pure []
      let mutability ← keyword? "mut"
      return some (attributes ++ sign ++ raw ++ mutability, "reference")
    else if ← sees "*" then return some (attributes ++ (← operator "*"), "unary")
    else if ← sees "!" then return some (attributes ++ (← operator "!"), "unary")
    else if ← sees "-" then return some (attributes ++ (← operator "-"), "unary")
    else if attributes.isEmpty then return none
    else return some (attributes, "")
  return ((found.map (·.1)).flatten, (found.find? fun (_, form) => form != "").map (·.2))

def operand (records : Bool) (body : Reader Reading) : Reader Reading := do
  let (before, form) ← signs table
  let found ← trailers table (← atom table records body)
  match form with
  | some name => return ⟨before ++ found.tokens, .form name⟩
  | none => return ⟨before ++ found.tokens, found.shape⟩

/-! ## Operators between operands -/

/-- Whether a range ends without an upper bound. -/
def rangeEnds (records : Bool) : Reader Bool := do
  let closing ← [",", ";", "?", "=>", "=", "+", "/", "%", "^", ">", "<=", "!=", "-=", "*=", "&=", "|=", "<<="].anyM sees
  return (← atEnd) || closing || ((← sees ".") && !(← sees "..")) || (!records && (← seesGroup .brace)) ||
    (← seesWord "as")

/-- The operators and operands after the first operand.  `compared` says that the last operator of least weight
was a comparison, `top` how loosely the expression read so far binds. -/
def operations (records : Bool) (body : Reader Reading) :
    Nat → Bool → Looseness → String → Reader (List Token × Looseness × String)
  | 0, _, top, form => return ([], top, form)
  | fuel + 1, compared, top, form => do
    let continueWith (tokens : List Token) (compared : Bool) (kind : Looseness) (name : String) := do
      let loosest := if top.rank < kind.rank then (kind, name) else (top, form)
      let (rest, finalTop, finalForm) ← operations records body fuel compared loosest.1 loosest.2
      return (tokens ++ rest, finalTop, finalForm)
    match ← seesBinary with
    | some sign =>
      let comparing := comparisons.contains sign
      if comparing && compared then refused "comparison operators cannot be chained"
      let read ← operator sign
      let right ← operand table records body
      let kind : Looseness := if assigning.contains sign then .assignment else .binary
      let stillCompared := comparing || (compared && !(["&&", "||"].contains sign) && kind == .binary)
      continueWith (read ++ right.tokens) stillCompared kind "binary"
    | none =>
      if (← sees "=") && !(← sees "=>") then
        let read ← operator "="
        let right ← operand table records body
        continueWith (read ++ right.tokens) false .assignment "assign"
      else if ← sees ".." then
        let dots ← if ← sees "..=" then operator "..=" else if ← sees "..." then operator "..." else operator ".."
        if ← rangeEnds records then continueWith dots false .range "range"
        else
          let right ← operand table records body
          continueWith (dots ++ right.tokens) false .range "range"
      else if ← seesWord "as" then
        let head ← keyword "as"
        let type ← table.tokens (.type false)
        continueWith (head ++ type) compared .cast "cast"
      else return ([], top, form)

/-- The rest of an expression whose first operand has been read. -/
def continued (records : Bool) (body : Reader Reading) (first : Reading) : Reader Reading := do
  let (rest, top, form) ← operations table records body ((← get).length + 1) false .operand ""
  if top = .operand then return first else return ⟨first.tokens ++ rest, .form form⟩

/-! ## Statements -/

/-- An expression that ends with its closing brace, if it is a block of some kind at the start of a statement. -/
def statementExpression (body : Reader Reading) : Reader Reading := do
  let attributes ← outerAttributes table
  let blockLike ← next fun token => ["if", "while", "for", "loop", "match", "unsafe"].any (token.isWord ·)
  let constant := (← seesWord "const") && (← second (·.isGroup .brace))
  let first ← if blockLike || constant || (← seesGroup .brace) || startsLifetime (← get) then
      atom table true body
    else operand table true body
  let first : Reading := ⟨attributes ++ first.tokens, first.shape⟩
  if !first.shape.standsAlone then return ← continued table true body first
  if ((← sees ".") && !(← sees "..")) || (← sees "?") then
    return ← continued table true body (← trailers table first)
  return first

/-- `let`, up to its semicolon. -/
def localBinding : Reader (List Token) := do
  let head ← keyword "let"
  let pattern ← table.tokens .pattern
  let type ← if ← sees ":" then do
      let colon ← operator ":"
      pure (colon ++ (← table.tokens (.type true)))
    else pure []
  let value ← if ← sees "=" then do
      let equals ← operator "="
      let expression ← table.tokens (.expression true)
      let otherwise ← if ← seesWord "else" then do
          let word ← keyword "else"
          pure (word ++ (← table.tokens .block))
        else pure []
      pure (equals ++ expression ++ otherwise)
    else pure []
  return head ++ pattern ++ type ++ value ++ (← operator ";")

/-- Whether an item begins here, after its attributes. -/
def seesItem (tokens : List Token) : Bool :=
  let nth (n : Nat) (test : Token → Bool) : Bool := (tokens.drop n).head?.any test
  let word (n : Nat) (names : List String) : Bool := nth n fun token => names.any (token.isWord ·)
  word 0 ["pub", "extern", "use", "fn", "mod", "type", "struct", "enum", "trait", "impl", "macro"] ||
    (word 0 ["crate"] && !startsWith [':', ':'] (tokens.drop 1)) ||
    (word 0 ["static"] && (word 1 ["mut"] || nth 1 Token.isUsableIdent)) ||
    (word 0 ["const"] && !(nth 1 (·.isGroup .brace) || word 1 ["static", "move"] || nth 1 (isMark '|') ||
      (word 1 ["async"] && !word 2 ["unsafe", "extern", "fn"]))) ||
    (word 0 ["unsafe"] && !nth 1 (·.isGroup .brace)) ||
    (word 0 ["async"] && word 1 ["unsafe", "extern", "fn"]) ||
    (word 0 ["union"] && nth 1 Token.isUsableIdent) || (word 0 ["auto"] && word 1 ["trait"]) ||
    (word 0 ["default"] && word 1 ["unsafe", "impl"]) ||
    (nth 0 Token.isUsableIdent && nth 1 (isMark '!') && nth 2 Token.isUsableIdent)

def afterAttributes : List Token → List Token
  | .punct '#' _ :: .group .bracket _ :: rest => afterAttributes rest
  | tokens => tokens

/-- A statement; the answer says whether it may stand before another one. -/
def statement (body : Reader Reading) : Reader (List Token × Bool) := do
  let later := afterAttributes (← get)
  if seesItem later then return (← table.tokens .item, true)
  else if later.head?.any (·.isWord "let") then
    let attributes ← outerAttributes table
    return (attributes ++ (← localBinding table), true)
  else
    let expression ← statementExpression table body
    let semicolon ← operator? ";"
    return (expression.tokens ++ semicolon, !semicolon.isEmpty || expression.shape.standsAlone)

def statements (body : Reader Reading) : Reader (List Token) := do
  let found ← many do
    if ← atEnd then return none
    if ← sees ";" then return some (← operator ";")
    let (tokens, complete) ← statement table body
    if !complete && !(← atEnd) then refused "unexpected token, expected `;`"
    return some tokens
  return found.flatten

/-- The value of a match arm, `fuel` arms deep. -/
def armBody : Nat → Reader Reading
  | 0 => refused "expected an expression"
  | fuel + 1 => statementExpression table (armBody fuel)

/-- How deep match arms may stand in one another without a block between. -/
def armDepth : Reader Nat := do
  return (← get).length + 1

def blockRule : Reader Reading := do
  let content ← group .brace do
    let attributes ← innerAttributes table
    return attributes ++ (← statements table (armBody table (← armDepth)))
  return ⟨[Token.braces content], .form "block"⟩

def expressionRule (records : Bool) : Reader Reading := do
  let body := armBody table (← armDepth)
  continued table records body (← operand table records body)

end TypedStatement.Source.Grammar
