import TypedStatement.Source.Grammar.Rule

/-!
# Paths, types, bounds and generic parameters
-/

namespace TypedStatement.Source.Grammar
set_option autoImplicit false

open Reader

/-! ## Generic arguments and paths -/

/-- An argument or parameter between angle brackets, with the comma after it. -/
structure Entry where
  isLifetime : Bool
  tokens : List Token
  /-- The entry, if it is a type and no more than an identifier. -/
  name : Option Ident := none
  comma : Bool := false

/-- The entries, lifetimes first, with a comma between any two. -/
def Entry.lifetimesFirst (entries : List Entry) : List Token :=
  let written (entry : Entry) := entry.tokens ++ (if entry.comma then [Token.mark ','] else [])
  let lifetimes := entries.filter (·.isLifetime)
  let others := entries.filter (!·.isLifetime)
  let between := match lifetimes.getLast?, others with
    | some last, _ :: _ => if last.comma then [] else [Token.mark ',']
    | _, _ => []
  lifetimes.flatMap written ++ between ++ others.flatMap written

/-- The name of the only entry. -/
def Entry.soleName : List Entry → Option Ident
  | [entry] => entry.name
  | _ => none

/-- An entry and the comma after it, unless the list ends here. -/
def angleEntry (one : Reader Entry) : Reader (Option Entry) := do
  if ← sees ">" then return none
  let entry ← one
  if ← sees ">" then return some entry
  let _ ← operator ","
  return some { entry with comma := true }

/-- A list between angle brackets: entries up to `>`, separated by commas. -/
def angleEntries (one : Reader Entry) : Reader (List Entry) := do
  let _ ← operator "<"
  let entries ← many (angleEntry one)
  let _ ← operator ">"
  return entries

/-- A value between angle brackets: a literal or a block. -/
def constArgument (table : Table) : Reader (List Token) := do
  if startsLiteral (← get) then literal
  else if ← seesGroup .brace then table.tokens .block
  else expected ["literal", "curly braces"]

/-- Whether something that can begin a bound is next. -/
def seesBound : Reader Bool := do
  return (← next fun token => token.isAnyIdent || token.isGroup .parenthesis) || (← sees "::") || (← sees "?")
    || startsLifetime (← get)

variable (table : Table)

/-- The arguments of a path segment in angle brackets. -/
def genericArgument (bound : Reader (List Token)) : Reader Entry := do
  let tokens ← get
  if startsLifetime tokens && !((tokens.drop 2).head?.any (isMark '+')) then
    return { isLifetime := true, tokens := ← lifetime }
  if startsLiteral tokens || (← seesGroup .brace) then
    return { isLifetime := false, tokens := ← constArgument table }
  let type ← table (.type true)
  let single := match type.shape with
    | .path path => !path.leading && path.segments.length == 1
    | _ => false
  if single && (← sees "=") then
    let equals ← operator "="
    let value ← if startsLiteral (← get) || (← seesGroup .brace) then constArgument table
      else table.tokens (.type true)
    return { isLifetime := false, tokens := type.tokens ++ equals ++ value }
  if single && (← sees ":") then
    let colon ← operator ":"
    let bounds ← chain do
      if (← sees ",") || (← sees ">") then return none
      let one ← bound
      let sign ← operator? "+"
      return some (one ++ sign, !sign.isEmpty)
    return { isLifetime := false, tokens := type.tokens ++ colon ++ bounds.flatten }
  return { isLifetime := false, tokens := type.tokens, name := type.shape.name? }

/-- `-> type`, or nothing. -/
def returnType (plus : Bool) : Reader (List Token) := do
  if ← sees "->" then return (← operator "->") ++ (← table.tokens (.type plus)) else return []

/-- Arguments in round brackets, as traits of functions have them, with a return type. -/
def parenthesizedArguments : Reader (List Token) := do
  let _ ← operator? "::"
  let arguments ← group .parenthesis (separated (table.tokens (.type true)))
  return Token.parens arguments :: (← returnType table false)

/-- Whether arguments in round brackets are next. -/
def seesParenthesized : Reader Bool := do
  return (← seesGroup .parenthesis) || ((← sees "::") && (← third (·.isGroup .parenthesis)))

/-- A segment of a path; in expressions arguments need `::` in front. -/
def pathSegment (bound : Reader (List Token)) (inExpression : Bool) : Reader PathSegment := do
  if ← next fun token => ["super", "self", "crate", "try"].any (token.isWord ·) then
    return ⟨← anyIdent, none⟩
  let name ← if ← seesWord "Self" then anyIdent else ident
  let direct := !inExpression && (← sees "<") && !(← sees "<=") && !(← sees "<<=")
  if direct || ((← sees "::") && (← third (isMark '<'))) then
    let turbofish := !(← operator? "::").isEmpty
    let entries ← angleEntries (genericArgument table bound)
    return ⟨name, some ⟨turbofish, Entry.lifetimesFirst entries, Entry.soleName entries⟩⟩
  return ⟨name, none⟩

def pathRest (bound : Reader (List Token)) (inExpression : Bool) : Reader (List PathSegment) :=
  many do
    if (← sees "::") && !(← third (·.isGroup .parenthesis)) then
      let _ ← operator "::"
      return some (← pathSegment table bound inExpression)
    else return none

def pathWith (bound : Reader (List Token)) (inExpression : Bool) : Reader Path := do
  let leading := !(← operator? "::").isEmpty
  let first ← pathSegment table bound inExpression
  return ⟨leading, first :: (← pathRest table bound inExpression)⟩

/-! ## Bounds -/

/-- `for<'a, 'b>`, or nothing. -/
def binder : Reader (List Token) := do
  if ← seesWord "for" then
    let head ← keyword "for"
    let entries ← angleEntries do
      return { isLifetime := true, tokens := ← lifetime }
    return head ++ Token.mark '<' :: (Entry.lifetimesFirst entries ++ [Token.mark '>'])
  else return []

/-- The bound without round brackets around it; `fuel` bounds how deep bounds stand in constraints of bounds. -/
def traitBound : Nat → Reader (List Token)
  | 0 => refused "expected identifier"
  | fuel + 1 => do
    if startsLifetime (← get) then return ← lifetime
    let inner : Reader (List Token) := do
      let lifetimes ← binder
      let maybe ← operator? "?"
      let later ← if lifetimes.isEmpty then binder else pure []
      let path ← pathWith table (traitBound fuel) false
      let arguments ← if (path.segments.getLast?.any fun s => s.arguments.isNone) && (← seesParenthesized) then
          parenthesizedArguments table
        else pure []
      return lifetimes ++ maybe ++ later ++ path.tokens ++ arguments
    if ← seesGroup .parenthesis then return [Token.parens (← group .parenthesis inner)]
    inner

/-- How deep bounds may stand in constraints of bounds. -/
def boundDepth : Reader Nat := do
  return (← get).length + 1

def bound : Reader (List Token) := do
  traitBound table (← boundDepth)

/-- Bounds joined by `+`. -/
def bounds (plus : Bool) : Reader (List Token) := do
  let first ← bound table
  if plus && (← sees "+") then
    let rest ← many do
      if ← sees "+" then
        let sign ← operator "+"
        if ← seesBound then return some (sign ++ (← bound table)) else return some sign
      else return none
    return first ++ rest.flatten
  return first

def path : Reader Path := do
  pathWith table (bound table) false

def expressionPath : Reader Path := do
  pathWith table (bound table) true

/-- A path that may begin with a self type in angle brackets. -/
def qualifiedPath (inExpression : Bool) : Reader Reading := do
  if ← sees "<" then
    let opening ← operator "<"
    let self ← table.tokens (.type true)
    let trait ← if ← seesWord "as" then
        let as ← keyword "as"
        pure (as ++ (← path table).tokens)
      else pure []
    let closing ← operator ">"
    let separator ← operator "::"
    let first ← pathSegment table (bound table) inExpression
    let rest ← many do
      if ← sees "::" then
        let _ ← operator "::"
        return some (← pathSegment table (bound table) inExpression)
      else return none
    return ⟨opening ++ self ++ trait ++ closing ++ separator ++
      joinSegments ((first :: rest).map PathSegment.tokens), .form "path"⟩
  else
    let found ← pathWith table (bound table) inExpression
    return ⟨found.tokens, .path found⟩

/-! ## Types -/

def pathType (plus : Bool) (lifetimes : List Token) : Reader Reading := do
  let reading ← qualifiedPath table false
  match reading.shape with
  | .path found =>
    let reading ← if (found.segments.getLast?.any fun s => s.arguments.isNone) && (← seesParenthesized) then do
        pure (⟨reading.tokens ++ (← parenthesizedArguments table), .form "path"⟩ : Reading)
      else pure reading
    if (← sees "!") && !(← sees "!=") && found.segments.all fun s => s.arguments.isNone then
      let bang ← operator "!"
      return ⟨reading.tokens ++ bang ++ [← anyGroup], .form "macro"⟩
    if !lifetimes.isEmpty || (plus && (← sees "+")) then
      let rest ← many do
        if plus && (← sees "+") then
          let sign ← operator "+"
          if ← seesBound then return some (sign ++ (← bound table)) else return some sign
        else return none
      return ⟨lifetimes ++ reading.tokens ++ rest.flatten, .form "bounds"⟩
    return reading
  | _ => return reading

/-- A type in round brackets, or a tuple. -/
def parenthesizedType (plus : Bool) : Reader Reading := do
  let (content, single) ← group .parenthesis do
    if ← atEnd then return ([], false)
    if startsLifetime (← get) || (← sees "?") then return (← bounds table true, true)
    let first ← table.tokens (.type true)
    if ← sees "," then
      let comma ← operator ","
      return (first ++ comma ++ (← separated (table.tokens (.type true))), false)
    return (first, true)
  if single && plus && (← sees "+") then
    let rest ← many do
      if ← sees "+" then
        let sign ← operator "+"
        if ← seesBound then return some (sign ++ (← bound table)) else return some sign
      else return none
    return ⟨Token.parens content :: rest.flatten, .form "bounds"⟩
  return ⟨[Token.parens content], .form "tuple"⟩

/-- An argument of a function type: a type, perhaps with a name, or an ellipsis. -/
def functionTypeArgument (attributes : Reader (List Token)) : Reader (List Token) := do
  let before ← attributes
  if ← sees "..." then return before ++ (← operator "...")
  let named := (← next fun token => token.isUsableIdent || token.isWord "_" || token.isWord "self") &&
    (← second (isMark ':')) && !startsWith [':', ':'] ((← get).drop 1)
  let name ← if named then do
      let name ← anyIdent
      pure (Token.ident name :: (← operator ":"))
    else pure []
  if named && (← sees "...") then return before ++ name ++ (← operator "...")
  return before ++ name ++ (← table.tokens (.type true))

/-- `extern` with or without a name of a calling convention, or nothing. -/
def abi : Reader (List Token) := do
  if ← seesWord "extern" then
    let head ← keyword "extern"
    match ← get with
    | .literal text :: rest =>
      if (StringLiteral.value? text).isSome then
        set rest
        return head ++ [.literal text]
      else return head
    | _ => return head
  else return []

def functionType (attributes : Reader (List Token)) : Reader (List Token) := do
  let unsafety ← keyword? "unsafe"
  let convention ← abi
  let head ← keyword "fn"
  let arguments ← group .parenthesis (separated (functionTypeArgument table attributes))
  return unsafety ++ convention ++ head ++ [Token.parens arguments] ++ (← returnType table false)

/-- `[type]` or `[type; length]`. -/
def bracketedType : Reader (List Token) := do
  let content ← group .bracket do
    let element ← table.tokens (.type true)
    if ← sees ";" then
      let semicolon ← operator ";"
      return element ++ semicolon ++ (← table.tokens (.expression true))
    return element
  return [Token.brackets content]

/-- What may begin a type. -/
def typeOpenings : List String :=
  ["`for`", "parentheses", "`fn`", "`unsafe`", "`extern`", "identifier", "`::`", "`<`", "`dyn`",
   "square brackets", "`*`", "`&`", "`!`", "`impl`", "`_`", "lifetime"]

/-- A type; `attributes` reads the attributes of arguments of function types. -/
def typeRule (attributes : Reader (List Token)) (plus : Bool) : Reader Reading := do
  let lifetimes ← binder
  if ← seesGroup .parenthesis then parenthesizedType table plus
  else if ← next fun token => ["fn", "unsafe", "extern"].any (token.isWord ·) then
    return ⟨lifetimes ++ (← functionType table attributes), .form "function"⟩
  else if (← next fun token => token.isUsableIdent || ["super", "self", "Self", "crate"].any (token.isWord ·)) ||
      (← sees "::") || (← sees "<") then
    pathType table plus lifetimes
  else if ← seesWord "dyn" then
    let head ← keyword "dyn"
    let star ← operator? "*"
    return ⟨head ++ star ++ (← bounds table plus), .form "bounds"⟩
  else if ← seesGroup .bracket then return ⟨← bracketedType table, .form "array"⟩
  else if ← sees "*" then
    let star ← operator "*"
    let mutability ← if ← seesWord "const" then keyword "const"
      else if ← seesWord "mut" then keyword "mut"
      else expected ["`const`", "`mut`"]
    return ⟨star ++ mutability ++ (← table.tokens (.type false)), .form "pointer"⟩
  else if ← sees "&" then
    let sign ← operator "&"
    let region ← if startsLifetime (← get) then lifetime else pure []
    let mutability ← keyword? "mut"
    return ⟨sign ++ region ++ mutability ++ (← table.tokens (.type false)), .form "reference"⟩
  else if (← sees "!") && !(← sees "!=") then return ⟨← operator "!", .form "never"⟩
  else if ← seesWord "impl" then
    let head ← keyword "impl"
    return ⟨head ++ (← bounds table plus), .form "bounds"⟩
  else if ← seesWord "_" then return ⟨← keyword "_", .form "infer"⟩
  else if startsLifetime (← get) then return ⟨← bounds table plus, .form "bounds"⟩
  else expected typeOpenings

/-! ## Attributes -/

/-- The inside of an attribute: a path, perhaps with a group of tokens, or with a value. -/
def attributeContent : Reader (List Token) := do
  let name ← if ← seesWord "unsafe" then keyword "unsafe" else pure (← modulePath).tokens
  if ← next fun token => token.isGroup .parenthesis || token.isGroup .bracket || token.isGroup .brace then
    return name ++ [← anyGroup]
  if ← sees "=" then
    let equals ← operator "="
    if (← sees "#") && (← second (·.isGroup .bracket)) then
      refused "unexpected attribute inside of attribute"
    return name ++ equals ++ (← table.tokens (.expression true))
  return name

def outerAttributes : Reader (List Token) := do
  let found ← many do
    if ← sees "#" then
      let sign ← operator "#"
      return some (sign ++ [Token.brackets (← group .bracket (attributeContent table))])
    else return none
  return found.flatten

/-- Attributes at the start of what they belong to. -/
def innerAttributes : Reader (List Token) := do
  let found ← many do
    if (← sees "#") && (← second (isMark '!')) then
      let sign ← operator "#"
      let bang ← operator "!"
      return some (sign ++ bang ++ [Token.brackets (← group .bracket (attributeContent table))])
    else return none
  return found.flatten

/-! ## Generic parameters -/

/-- Lifetimes joined by `+`, as bounds. -/
def lifetimeBounds : Reader (List Token) := do
  let found ← chain do
    if startsLifetime (← get) then
      let one ← lifetime
      let sign ← operator? "+"
      return some (one ++ sign, !sign.isEmpty)
    else return none
  return found.flatten

/-- A colon and bounds; without bounds the colon is dropped. -/
def boundsAfterColon (stops : List String) : Reader (List Token) := do
  if (← sees ":") && !(← sees "::") then
    let colon ← operator ":"
    let found ← chain do
      if (← atEnd) || (← seesGroup .brace) || (← stops.anyM sees) || ((← sees ":") && !(← sees "::")) then
        return none
      let one ← bound table
      let sign ← operator? "+"
      return some (one ++ sign, !sign.isEmpty)
    return if found.isEmpty then [] else colon ++ found.flatten
  else return []

def genericParameter : Reader Entry := do
  let attributes ← outerAttributes table
  if startsLifetime (← get) then
    let name ← lifetime
    if (← sees ":") && !(← sees "::") then
      let colon ← operator ":"
      let limits ← lifetimeBounds
      return { isLifetime := true, tokens := attributes ++ name ++ (if limits.isEmpty then [] else colon ++ limits) }
    return { isLifetime := true, tokens := attributes ++ name }
  else if ← seesWord "const" then
    let head ← keyword "const"
    let name ← ident
    let colon ← operator ":"
    let type ← table.tokens (.type true)
    let value ← if ← sees "=" then do
        let equals ← operator "="
        pure (equals ++ (← constArgument table))
      else pure []
    return { isLifetime := false, tokens := attributes ++ head ++ .ident name :: (colon ++ type ++ value) }
  else if ← next fun token => token.isUsableIdent || token.isWord "_" then
    let name ← anyIdent
    let limits ← boundsAfterColon table [",", ">", "="]
    let value ← if ← sees "=" then do
        let equals ← operator "="
        pure (equals ++ (← table.tokens (.type true)))
      else pure []
    return { isLifetime := false, tokens := attributes ++ .ident name :: (limits ++ value) }
  else expected ["lifetime", "identifier", "`const`"]

/-- Generic parameters in angle brackets, or nothing; empty brackets are dropped. -/
def genericParameters : Reader (List Token) := do
  if ← sees "<" then
    let entries ← angleEntries (genericParameter table)
    return if entries.isEmpty then [] else Token.mark '<' :: (Entry.lifetimesFirst entries ++ [Token.mark '>'])
  else return []

/-- Whether a `where` clause ends here. -/
def whereEnds : Reader Bool := do
  return (← atEnd) || (← seesGroup .brace) || (← sees ",") || (← sees ";") ||
    ((← sees ":") && !(← sees "::")) || (← sees "=")

/-- A `where` clause, or nothing; one without predicates is dropped. -/
def whereClause : Reader (List Token) := do
  if ← seesWord "where" then
    let head ← keyword "where"
    let predicates ← chain do
      if ← whereEnds then return none
      let subject ← if startsLifetime (← get) && (← third (isMark ':')) then lifetime
        else do
          let lifetimes ← binder
          pure (lifetimes ++ (← table.tokens (.type false)))
      let colon ← operator ":"
      let limits ← chain do
        if ← whereEnds then return none
        let one ← bound table
        let sign ← operator? "+"
        return some (one ++ sign, !sign.isEmpty)
      let comma ← operator? ","
      return some (subject ++ colon ++ limits.flatten ++ comma, !comma.isEmpty)
    return if predicates.isEmpty then [] else head ++ predicates.flatten
  else return []

end TypedStatement.Source.Grammar
