import TypedStatement.Source.Grammar.Type

/-!
# Patterns
-/

namespace TypedStatement.Source.Grammar
set_option autoImplicit false

open Reader

variable (table : Table)

/-- Alternatives joined by `|`, perhaps with one in front. -/
def alternatives (one : Reader (List Token)) : Reader (List Token) := do
  let seesBar : Reader Bool := do return (← sees "|") && !(← sees "||") && !(← sees "|=")
  let leading ← if ← seesBar then operator "|" else pure []
  let first ← one
  let rest ← many do
    if ← seesBar then
      let bar ← operator "|"
      return some (bar ++ (← one))
    else return none
  return leading ++ first ++ rest.flatten

/-- The end of a range in a pattern. -/
def rangeBound : Reader (List Token) := do
  if startsLiteral (← get) then literal
  else if (← seesWord "const") && (← second (·.isGroup .brace)) then
    return (← keyword "const") ++ (← table.tokens .block)
  else return (← qualifiedPath table true).tokens

/-- Whether a range in a pattern ends without an upper bound. -/
def rangeOpen : Reader Bool := do
  return (← atEnd) || (← sees "|") || (← sees "=") || ((← sees ":") && !(← sees "::")) || (← sees ",") ||
    (← sees ";") || (← seesWord "if")

/-- `..` or `..=` with its upper bound, or nothing. -/
def rangeTail : Reader (List Token) := do
  if ← sees "..=" then return (← operator "..=") ++ (← rangeBound table)
  else if ← sees ".." then
    let dots ← operator ".."
    if ← rangeOpen then return dots else return dots ++ (← rangeBound table)
  else return []

def fieldPattern : Reader (List Token) := do
  let attributes ← outerAttributes table
  if ← sees ".." then return attributes ++ (← operator "..")
  let boxed ← keyword? "box"
  let reference ← keyword? "ref"
  let mutability ← keyword? "mut"
  match ← get with
  | .literal text :: rest =>
    set rest
    let colon ← operator ":"
    return attributes ++ .literal text :: (colon ++ (← table.tokens .pattern))
  | _ =>
    let name ← ident
    if boxed.isEmpty && reference.isEmpty && mutability.isEmpty && (← sees ":") && !(← sees "::") then
      let colon ← operator ":"
      return attributes ++ .ident name :: (colon ++ (← table.tokens .pattern))
    return attributes ++ boxed ++ reference ++ mutability ++ [.ident name]

def pathPattern : Reader (List Token) := do
  let reading ← qualifiedPath table true
  if (← sees "!") && !(← sees "!=") then
    let bang ← operator "!"
    return reading.tokens ++ bang ++ [← anyGroup]
  if ← seesGroup .brace then
    return reading.tokens ++ [Token.braces (← group .brace (separated (fieldPattern table)))]
  if ← seesGroup .parenthesis then
    return reading.tokens ++ [Token.parens (← group .parenthesis (separated (table.tokens .pattern)))]
  return reading.tokens ++ (← rangeTail table)

/-- A pattern without alternatives at its top. -/
def singlePattern : Reader (List Token) := do
  let pathFollows := (← second fun token => isMark '!' token || token.isGroup .brace || token.isGroup .parenthesis) ||
    startsWith [':', ':'] ((← get).drop 1) || startsWith ['.', '.'] ((← get).drop 1)
  if ((← next Token.isUsableIdent) && pathFollows) ||
      ((← seesWord "self") && startsWith [':', ':'] ((← get).drop 1)) || (← sees "::") || (← sees "<") ||
      (← next fun token => ["Self", "super", "crate"].any (token.isWord ·)) then
    pathPattern table
  else if ← seesWord "_" then keyword "_"
  else if ← seesWord "box" then return (← keyword "box") ++ (← table.tokens .pattern)
  else if (← sees "-") || startsLiteral (← get) ||
      ((← seesWord "const") && (← second (·.isGroup .brace))) then
    return (← rangeBound table) ++ (← rangeTail table)
  else if ← next fun token => token.isWord "ref" || token.isWord "mut" || token.isWord "self" || token.isUsableIdent then
    let reference ← keyword? "ref"
    let mutability ← keyword? "mut"
    let name ← if ← seesWord "self" then anyIdent else ident
    let binding ← if ← sees "@" then do
        let sign ← operator "@"
        pure (sign ++ (← table.tokens .pattern))
      else pure []
    return reference ++ mutability ++ .ident name :: binding
  else if ← sees "&" then
    let sign ← operator "&"
    let mutability ← keyword? "mut"
    return sign ++ mutability ++ (← table.tokens .pattern)
  else if ← seesGroup .parenthesis then
    return [Token.parens (← group .parenthesis (separated (alternatives (table.tokens .pattern))))]
  else if ← seesGroup .bracket then
    return [Token.brackets (← group .bracket (separated (alternatives (table.tokens .pattern))))]
  else if (← sees "..") && !(← sees "...") then
    if ← sees "..=" then rangeTail table
    else
      let dots ← operator ".."
      if ← rangeOpen then return dots else return dots ++ (← rangeBound table)
  else
    expected ["identifier", "`::`", "`<`", "`_`", "literal", "`const`", "`ref`", "`mut`", "`&`", "parentheses",
      "square brackets", "`..`"]

def patternRule : Reader Reading := do
  return ⟨← singlePattern table, .form "pattern"⟩

end TypedStatement.Source.Grammar
