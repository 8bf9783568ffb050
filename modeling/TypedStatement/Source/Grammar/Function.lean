import TypedStatement.Source.Grammar.Expression

/-!
# Functions
-/

namespace TypedStatement.Source.Grammar
set_option autoImplicit false

open Reader

/-! ## Reading ahead -/

def afterWord (name : String) : List Token → List Token
  | token :: rest => if token.isWord name then rest else token :: rest
  | [] => []

/-- Whether a function begins with the tokens; some functions may have `safe` in front. -/
def beginsFunction (safe : Bool) (tokens : List Token) : Bool :=
  let qualified := afterWord "async" (afterWord "const" tokens)
  let named := if safe && qualified.head?.any (·.isWord "safe") then qualified.drop 1 else afterWord "unsafe" qualified
  let convention := match named with
    | token :: rest =>
      if token.isWord "extern" then
        match rest with
        | .literal text :: later => if (StringLiteral.value? text).isSome then later else rest
        | _ => rest
      else token :: rest
    | [] => []
  convention.head?.any (·.isWord "fn")

/-- The tokens taken since there were `before`, just as they were. -/
def takenSince (before : List Token) : Reader (List Token) := do
  return before.take (before.length - (← get).length)

/-- Runs a reader if it does not fail. -/
def attempt? {α : Type} (reader : Reader α) : Reader (Option α) := do
  match reader.run (← get) with
  | .ok (value, rest) =>
    set rest
    return some value
  | .error _ => return none

variable (table : Table)

/-! ## Signatures -/

/-- `self`, perhaps by reference, or with a type. -/
def receiver : Reader (List Token) := do
  let reference ← if ← sees "&" then do
      let sign ← operator "&"
      let region ← if startsLifetime (← get) then lifetime else pure []
      pure (sign ++ region)
    else pure []
  let mutability ← keyword? "mut"
  let self ← keyword "self"
  if reference.isEmpty && (← sees ":") then
    let colon ← operator ":"
    return mutability ++ self ++ colon ++ (← table.tokens (.type true))
  return reference ++ mutability ++ self

/-- A comma, unless nothing follows. -/
def commaUnlessEnd : Reader (List Token) := do
  if ← atEnd then return [] else operator ","

/-- The arguments of a function from the one on that has `index` arguments before it; `received` says that a
receiver is among those. -/
def functionArguments : Nat → Nat → Bool → Reader (List Token)
  | 0, _, _ => return []
  | fuel + 1, index, received => do
    if ← atEnd then return []
    let attributes ← outerAttributes table
    if ← sees "..." then
      let dots ← operator "..."
      return attributes ++ dots ++ (← commaUnlessEnd)
    match ← attempt? (receiver table) with
    | some self =>
      if received then throw (.refused false "unexpected second method receiver")
      if index != 0 then throw (.refused false "unexpected method receiver")
      let comma ← commaUnlessEnd
      return attributes ++ self ++ comma ++ (← functionArguments fuel (index + 1) true)
    | none =>
      if (← next Token.isUsableIdent) && (← second (isMark '<')) then
        let type ← table.tokens (.type true)
        let comma ← commaUnlessEnd
        return attributes ++ Token.word "_" :: Token.mark ':' :: (type ++ comma ++
          (← functionArguments fuel (index + 1) received))
      let pattern ← table.tokens .pattern
      let colon ← operator ":"
      if ← sees "..." then
        let dots ← operator "..."
        return attributes ++ pattern ++ colon ++ dots ++ (← commaUnlessEnd)
      let type ← table.tokens (.type true)
      let comma ← commaUnlessEnd
      return attributes ++ pattern ++ colon ++ type ++ comma ++
        (← functionArguments fuel (index + 1) received)

/-- A function up to its body. -/
def signature (safe : Bool) : Reader (List Token) := do
  let constness ← keyword? "const"
  let asyncness ← keyword? "async"
  let safety ← if safe && (← seesWord "safe") then keyword "safe" else keyword? "unsafe"
  let convention ← abi
  let head ← keyword "fn"
  let name ← ident
  let parameters ← genericParameters table
  let arguments ← group .parenthesis do
    functionArguments table ((← get).length + 1) 0 false
  let result ← returnType table true
  return constness ++ asyncness ++ safety ++ convention ++ head ++ .ident name ::
    (parameters ++ Token.parens arguments :: (result ++ (← whereClause table)))

/-! ## Bodies -/

/-- A body in braces: attributes, then statements. -/
def functionBody : Reader (List Token) := table.tokens .block

/-- A call of a named expansion as an item of its own: with a semicolon unless it ends with a brace. -/
def callItem (name : Reader (List Token)) : Reader (List Token) := do
  let path ← modulePath
  let bang ← operator "!"
  let defined ← name
  let arguments ← anyGroup
  let semicolon ← if arguments.isGroup .brace then pure [] else operator ";"
  return path.tokens ++ bang ++ defined ++ arguments :: semicolon

/-- Whether a path without arguments is next, keywords that name modules included. -/
def seesCallItem : Reader Bool := do
  return (← next fun token => token.isUsableIdent || ["self", "super", "crate"].any (token.isWord ·)) ||
    (← sees "::")

/-- What may begin a call as an item. -/
def callOpenings : List String := ["identifier", "`self`", "`super`", "`crate`", "`::`"]

end TypedStatement.Source.Grammar
