import TypedStatement.Source.Grammar.Function

/-!
# Members of traits, implementations and foreign blocks

A member of a form that has no meaning for its block is kept as it is written.
-/

namespace TypedStatement.Source.Grammar
set_option autoImplicit false

open Reader

variable (table : Table)

/-! ## Constants and types -/

/-- The end of a constant: its type, perhaps a value, and a semicolon. -/
structure ConstantRest where
  tokens : List Token
  hasValue : Bool
  /-- Whether there are generic parameters or a `where` clause, even without content. -/
  isGeneric : Bool

/-- The name of a constant, which may be `_`. -/
def constantName (others : List String) : Reader Ident := do
  if ← next fun token => token.isUsableIdent || token.isWord "_" then anyIdent
  else expected (["identifier", "`_`"] ++ others)

def constantRest : Reader ConstantRest := do
  let generic ← sees "<"
  let parameters ← genericParameters table
  let colon ← operator ":"
  let type ← table.tokens (.type true)
  let value ← if ← sees "=" then do
      let equals ← operator "="
      pure (equals ++ (← table.tokens (.expression true)))
    else pure []
  let constrained ← seesWord "where"
  let constraints ← whereClause table
  let semicolon ← operator ";"
  return ⟨parameters ++ colon ++ type ++ value ++ constraints ++ semicolon, !value.isEmpty, generic || constrained⟩

/-- Bounds after a colon up to one of the stops; `none` without a colon. -/
def boundsUpTo (stops : Reader Bool) : Reader (Option (List Token)) := do
  if ← sees ":" then
    let _ ← operator ":"
    let found ← chain do
      if ← stops then return none
      let one ← bound table
      if ← stops then return some (one, false)
      return some (one ++ (← operator "+"), true)
    return some found.flatten
  else return none

/-- Where a `where` clause of a type may stand. -/
inductive WherePlace where
  | beforeValue
  | afterValue
  | both

structure TypeRest where
  head : List Token
  /-- The bounds, if there is a colon. -/
  bounds : Option (List Token)
  value : List Token
  /-- The `where` clause, before or after the value. -/
  constraints : List Token

/-- `type`, its name and what follows, up to the semicolon. -/
def typeRest (place : WherePlace) : Reader TypeRest := do
  let head ← keyword "type"
  let name ← ident
  let parameters ← genericParameters table
  let limits ← boundsUpTo table do
    return (← seesWord "where") || (← sees "=") || (← sees ";")
  let early ← seesWord "where"
  let before ← match place with
    | .afterValue => pure []
    | _ => whereClause table
  let value ← if ← sees "=" then do
      let equals ← operator "="
      pure (equals ++ (← table.tokens (.type true)))
    else pure []
  let after ← match place with
    | .beforeValue => pure []
    | .afterValue => whereClause table
    | .both => if early then pure [] else whereClause table
  let _ ← operator ";"
  return ⟨head ++ .ident name :: parameters, limits, value, before ++ after⟩

/-! ## Members -/

def traitMember : Reader (List Token) := do
  let before ← get
  let attributes ← outerAttributes table
  let visible ← visibility
  let provided ← keyword? "default"
  let plain := visible.tokens.isEmpty && provided.isEmpty
  let whole (tokens : List Token) : Reader (List Token) :=
    if plain then pure (attributes ++ tokens) else takenSince before
  let function : Reader (List Token) := do
    let head ← signature table false
    if ← seesGroup .brace then return head ++ (← functionBody table)
    if ← sees ";" then return head ++ (← operator ";")
    expected ["curly braces", "`;`"]
  if beginsFunction false (← get) then whole (← function)
  else if ← seesWord "const" then
    let head ← keyword "const"
    let name ← constantName ["`async`", "`unsafe`", "`extern`", "`fn`"]
    let rest ← constantRest table
    if rest.isGeneric then takenSince before else whole (head ++ .ident name :: rest.tokens)
  else if ← seesWord "type" then
    let rest ← typeRest table .afterValue
    let limits := rest.bounds.getD []
    whole (rest.head ++ (if limits.isEmpty then [] else Token.mark ':' :: limits) ++ rest.value ++ rest.constraints ++
      [Token.mark ';'])
  else if plain && (← seesCallItem) then return attributes ++ (← callItem (pure []))
  else expected (["`fn`", "`const`", "`type`"] ++ (if plain then callOpenings else []))

def implementationMember : Reader (List Token) := do
  let before ← get
  let attributes ← outerAttributes table
  let visible ← visibility
  let provided ← if (← seesWord "default") && !(← second (isMark '!')) then keyword "default" else pure []
  let defaultTried := provided.isEmpty && !(← seesWord "default")
  let front := attributes ++ visible.tokens ++ provided
  if beginsFunction false (← get) then
    let head ← signature table false
    if ← sees ";" then
      let _ ← operator ";"
      takenSince before
    else return front ++ head ++ (← functionBody table)
  else if ← seesWord "const" then
    let head ← keyword "const"
    let name ← constantName []
    let rest ← constantRest table
    if rest.isGeneric || !rest.hasValue then takenSince before
    else return front ++ head ++ .ident name :: rest.tokens
  else if ← seesWord "type" then
    let rest ← typeRest table .afterValue
    if rest.bounds.isSome || rest.value.isEmpty then takenSince before
    else return front ++ rest.head ++ rest.value ++ rest.constraints ++ [Token.mark ';']
  else
    let plain := visible.tokens.isEmpty && provided.isEmpty
    if plain && (← seesCallItem) then return attributes ++ (← callItem (pure []))
    else expected ((if defaultTried then ["`default`"] else []) ++ ["`fn`", "`const`", "`type`"] ++
      (if plain then callOpenings else []))

def foreignMember : Reader (List Token) := do
  let before ← get
  let attributes ← outerAttributes table
  let visible ← visibility
  let front := attributes ++ visible.tokens
  if beginsFunction true (← get) then
    let safe := (← get).takeWhile (fun token => !token.isWord "fn") |>.any (·.isWord "safe")
    let head ← signature table true
    if ← seesGroup .brace then
      let _ ← functionBody table
      takenSince before
    else
      let semicolon ← operator ";"
      if safe then takenSince before else return front ++ head ++ semicolon
  else if (← seesWord "static") ||
      ((← next fun token => token.isWord "unsafe" || token.isWord "safe") && (← second (·.isWord "static"))) then
    let safety ← if ← seesWord "static" then pure [] else pure [Token.ident (← anyIdent)]
    let head ← keyword "static"
    let mutability ← keyword? "mut"
    let name ← ident
    let colon ← operator ":"
    let type ← table.tokens (.type true)
    let value ← if ← sees "=" then do
        let equals ← operator "="
        pure (equals ++ (← table.tokens (.expression true)))
      else pure []
    let semicolon ← operator ";"
    if safety.isEmpty && value.isEmpty then
      return front ++ head ++ mutability ++ .ident name :: (colon ++ type ++ semicolon)
    else takenSince before
  else if ← seesWord "type" then
    let rest ← typeRest table .both
    if rest.bounds.isSome || !rest.value.isEmpty then takenSince before
    else return front ++ rest.head ++ rest.constraints ++ [Token.mark ';']
  else
    let plain := visible.tokens.isEmpty
    if plain && (← seesCallItem) then return attributes ++ (← callItem (pure []))
    else expected (["`fn`", "`static`", "`type`"] ++ (if plain then callOpenings else []))

/-- Attributes and members up to the end. -/
def members (one : Reader (List Token)) : Reader (List Token) := do
  let attributes ← innerAttributes table
  let found ← many do
    if ← atEnd then return none
    return some (← one)
  return attributes ++ found.flatten

end TypedStatement.Source.Grammar
