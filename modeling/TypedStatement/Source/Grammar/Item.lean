import TypedStatement.Source.Grammar.Member
import TypedStatement.Source.Item

/-!
# Items

A struct is taken apart; of every other item the tokens are kept, and the words that introduce it.  An item that lacks
its value or body is kept as it is written, and so is one that defines or calls an expansion of its own: neither has an
introducer.
-/

namespace TypedStatement.Source.Grammar
set_option autoImplicit false

open Reader

variable (table : Table)

/-! ## Structs -/

/-- The type of a field without a name, which may be a struct of its own. -/
def unnamedFieldType : Reader (List Token) := do
  if (← seesWord "struct") || ((← seesWord "union") && (← second (·.isGroup .brace))) then
    let before ← get
    let _ ← anyIdent
    let _ ← group .brace (separated do
      let _ ← outerAttributes table
      let _ ← visibility
      let _ ← if ← seesWord "_" then anyIdent else ident
      let _ ← operator ":"
      table.tokens (.type true))
    takenSince before
  else table.tokens (.type true)

def namedField : Reader HostField := do
  let attributes ← outerAttributes table
  let visible ← visibility
  let unnamed ← seesWord "_"
  let name ← if unnamed then anyIdent else ident
  let _ ← operator ":"
  return ⟨attributes, visible, name, ← if unnamed then unnamedFieldType table else table.tokens (.type true)⟩

/-- Named fields in braces, and whether a comma follows the last one. -/
def namedFields : Reader HostFields := do
  let fields ← group .brace (many do
    if ← atEnd then return none
    let field ← namedField table
    if ← atEnd then return some (field, false)
    let _ ← operator ","
    return some (field, true))
  return .named (fields.map (·.1)) (fields.getLast?.any (·.2))

def tupleFields : Reader (List Token) :=
  group .parenthesis (separated do
    let attributes ← outerAttributes table
    let visible ← visibility
    return attributes ++ visible.tokens ++ (← table.tokens (.type true)))

/-- The body of a struct: its `where` clause and its fields. -/
def structBody : Reader (List Token × HostFields) := do
  let constrained ← seesWord "where"
  let constraints ← whereClause table
  if !constrained && (← seesGroup .parenthesis) then
    let content ← tupleFields table
    let late ← seesWord "where"
    let constraints ← whereClause table
    if ← sees ";" then
      let _ ← operator ";"
      return (constraints, .tuple content)
    else expected ((if late then [] else ["`where`"]) ++ ["`;`"])
  else if ← seesGroup .brace then return (constraints, ← namedFields table)
  else if ← sees ";" then
    let _ ← operator ";"
    return (constraints, .unit)
  else expected ((if constrained then [] else ["`where`", "parentheses"]) ++ ["curly braces", "`;`"])

def structItem (attributes : List Token) (visible : Visibility) : Reader Item := do
  let _ ← keyword "struct"
  let name ← ident
  let parameters ← genericParameters table
  let (constraints, fields) ← structBody table
  return .struct ⟨attributes, visible, name, parameters, constraints, fields⟩

/-! ## Enumerations and unions -/

/-- The fields of a union or of a variant of an enumeration. -/
def bracedFields : Reader (List Token) := do
  match ← namedFields table with
  | .named fields trailingComma => return [Token.braces (HostFields.separated fields trailingComma)]
  | _ => return []

def variant : Reader (List Token) := do
  let attributes ← outerAttributes table
  let _ ← visibility
  let name ← ident
  let fields ← if ← seesGroup .brace then bracedFields table
    else if ← seesGroup .parenthesis then pure [Token.parens (← tupleFields table)]
    else pure []
  let value ← if ← sees "=" then do
      let equals ← operator "="
      pure (equals ++ (← table.tokens (.expression true)))
    else pure []
  return attributes ++ .ident name :: (fields ++ value)

def enumItem : Reader (List Token) := do
  let head ← keyword "enum"
  let name ← ident
  let parameters ← genericParameters table
  let constraints ← whereClause table
  let variants ← group .brace (separated (variant table))
  return head ++ .ident name :: (parameters ++ constraints ++ [Token.braces variants])

def unionItem : Reader (List Token) := do
  let head ← keyword "union"
  let name ← ident
  let parameters ← genericParameters table
  let constraints ← whereClause table
  return head ++ .ident name :: (parameters ++ constraints ++ (← bracedFields table))

/-! ## Imports -/

/-- A tree of imported names; `none` if a name inside has `::` in front, which is allowed where `rooted` holds. -/
def importTree : Nat → Bool → Reader (Option (List Token))
  | 0, _ => refused "expected identifier"
  | fuel + 1, rooted => do
    if ← next fun token => token.isUsableIdent || ["self", "super", "crate", "try"].any (token.isWord ·) then
      let name ← anyIdent
      if ← sees "::" then
        let separator ← operator "::"
        let tree ← importTree fuel false
        return tree.map (.ident name :: separator ++ ·)
      else if ← seesWord "as" then
        let as ← keyword "as"
        if ← next fun token => token.isUsableIdent || token.isWord "_" then
          return some (.ident name :: (as ++ [.ident (← anyIdent)]))
        else refused "expected identifier or underscore"
      else return some [.ident name]
    else if ← sees "*" then return some (← operator "*")
    else if ← seesGroup .brace then
      let trees ← group .brace (many do
        if ← atEnd then return none
        let fromRoot ← if rooted && (← sees "::") then do
            let _ ← operator "::"
            pure true
          else pure false
        let tree ← importTree fuel (rooted && !fromRoot)
        let comma ← commaUnlessEnd
        return some (if fromRoot then none else tree.map (· ++ comma)))
      if trees.all Option.isSome then
        return some [Token.braces (trees.flatMap (·.getD []))]
      else return none
    else expected ["identifier", "`self`", "`super`", "`crate`", "`try`", "`*`", "curly braces"]

def importItem : Reader (Option (List Token)) := do
  let head ← keyword "use"
  let leading ← operator? "::"
  let tree ← importTree ((← get).length + 64) leading.isEmpty
  let semicolon ← operator ";"
  return tree.map (head ++ leading ++ · ++ semicolon)

/-! ## Traits and implementations -/

/-- What follows the name and the parameters of a trait. -/
def traitRest : Reader (List Token) := do
  let limits ← boundsUpTo table do
    return (← seesWord "where") || (← seesGroup .brace)
  let limits := limits.getD []
  let constraints ← whereClause table
  let content ← group .brace (members table (traitMember table))
  return (if limits.isEmpty then [] else Token.mark ':' :: limits) ++ constraints ++ [Token.braces content]

/-- A trait, or another name for bounds. -/
def traitItem : Reader (List Token) := do
  let unsafety ← keyword? "unsafe"
  let auto ← keyword? "auto"
  let head ← keyword "trait"
  let name ← ident
  let parameters ← genericParameters table
  let front := unsafety ++ auto ++ head ++ .ident name :: parameters
  if !unsafety.isEmpty || !auto.isEmpty || (← seesGroup .brace) || ((← sees ":") && !(← sees "::")) ||
      (← seesWord "where") then
    return front ++ (← traitRest table)
  else if ← sees "=" then
    let equals ← operator "="
    let stops : Reader Bool := do return (← seesWord "where") || (← sees ";")
    let limits ← chain do
      if ← stops then return none
      let one ← bound table
      if ← stops then return some (one, false)
      return some (one ++ (← operator "+"), true)
    let constraints ← whereClause table
    return front ++ equals ++ limits.flatten ++ constraints ++ (← operator ";")
  else expected ["curly braces", "`:`", "`where`", "`=`"]

/-- Whether `<` after `impl` opens parameters and not a type. -/
def opensParameters (tokens : List Token) : Bool :=
  let rest := tokens.drop 1
  let (named, later) := match rest with
    | .punct '\'' _ :: .ident _ :: later => (true, later)
    | token :: later => (token.isUsableIdent, later)
    | [] => (false, [])
  startsWith ['<'] tokens &&
    (startsWith ['>'] rest || startsWith ['#'] rest ||
      (named && (startsWith ['>'] later || startsWith [','] later ||
        (startsWith [':'] later && !startsWith [':', ':'] later) || startsWith ['='] later)) ||
      rest.head?.any (·.isWord "const"))

/-- An implementation; `none` if it has a form without meaning. -/
def implementationItem (visible : Bool) : Reader (Option (List Token)) := do
  let provided ← keyword? "default"
  let unsafety ← keyword? "unsafe"
  let head ← keyword "impl"
  let parameters ← if opensParameters (← get) then genericParameters table else pure []
  let constant := (← seesWord "const") || ((← sees "?") && (← second (·.isWord "const")))
  if constant then
    let _ ← operator? "?"
    let _ ← keyword "const"
  let bang ← if (← sees "!") && !(← second (·.isGroup .brace)) then operator "!" else pure []
  let first ← table (.type true)
  let (subject, meaningful) ← if ← seesWord "for" then do
      let between ← keyword "for"
      let isPath := match first.shape with
        | .path _ => true
        | .form name => name == "path" && !first.tokens.head?.any (isMark '<')
        | _ => false
      let self ← table.tokens (.type true)
      pure (bang ++ first.tokens ++ between ++ self, isPath)
    else pure (bang ++ first.tokens, true)
  let constraints ← whereClause table
  let content ← group .brace (members table (implementationMember table))
  if visible || constant || !meaningful then return none
  return some (provided ++ unsafety ++ head ++ parameters ++ subject ++ constraints ++ [Token.braces content])

/-! ## Modules and foreign blocks -/

/-- A module; `item` reads what stands in it. -/
def moduleItem : Reader (List Token) := do
  let unsafety ← keyword? "unsafe"
  let head ← keyword "mod"
  let name ← if ← seesWord "try" then anyIdent else ident
  let front := unsafety ++ head ++ [.ident name]
  if ← sees ";" then return front ++ (← operator ";")
  else if ← seesGroup .brace then
    return front ++ [Token.braces (← group .brace (members table (table.tokens .item)))]
  else expected ["`;`", "curly braces"]

def foreignBlock : Reader (List Token) := do
  let unsafety ← keyword? "unsafe"
  if !(← seesWord "extern") then expected ["`extern`"]
  let convention ← abi
  let content ← group .brace (members table (foreignMember table))
  return unsafety ++ convention ++ [Token.braces content]

def externCrate : Reader (List Token) := do
  let head ← keyword "extern"
  let word ← keyword "crate"
  let name ← if ← seesWord "self" then anyIdent else ident
  let renamed ← if ← seesWord "as" then do
      let as ← keyword "as"
      if ← next fun token => token.isUsableIdent || token.isWord "_" then pure (as ++ [.ident (← anyIdent)])
      else expected ["identifier", "`_`"]
    else pure []
  return head ++ word ++ .ident name :: (renamed ++ (← operator ";"))

/-! ## Any item -/

/-- What may begin an item, after its visibility. -/
def itemOpenings : List String :=
  ["`fn`", "`extern`", "`use`", "`static`", "`const`", "`unsafe`", "`mod`", "`type`", "`struct`", "`enum`", "`union`",
   "`trait`", "`auto`", "`impl`", "`default`", "`macro`"]

def item : Reader Item := do
  let before ← get
  let attributes ← outerAttributes table
  let afterAttributes ← get
  let visible ← visibility
  let plain := visible.tokens.isEmpty
  let front := attributes ++ visible.tokens
  let verbatim : Reader Item := do return .other none (← takenSince before)
  let known (introducer : String) (tokens : List Token) : Reader Item := do
    return .other (some introducer) (front ++ tokens)
  /- What takes no visibility sees it as the start of the item. -/
  let withoutVisibility : Reader Unit := if plain then pure () else set afterAttributes
  let beginning ← get
  let isWord (n : Nat) (name : String) : Bool := (beginning.drop n).head?.any (·.isWord name)
  if beginsFunction false beginning then
    let head ← signature table false
    if ← sees ";" then
      let _ ← operator ";"
      verbatim
    else known "fn" (head ++ (← functionBody table))
  else if isWord 0 "extern" then
    if isWord 1 "crate" then known "extern crate" (← externCrate)
    else
      let afterName := match beginning with
        | _ :: .literal text :: later => if (StringLiteral.value? text).isSome then some later else none
        | _ => none
      if (afterName.getD (beginning.drop 1)).head?.any (·.isGroup .brace) then
        withoutVisibility
        known "extern" (← foreignBlock table)
      else
        let _ ← abi
        expected (if afterName.isSome then ["curly braces"] else ["`crate`", "curly braces", "string literal"])
  else if isWord 0 "use" then
    match ← importItem with
    | some tokens => known "use" tokens
    | none => verbatim
  else if isWord 0 "static" then
    let head ← keyword "static"
    let mutability ← keyword? "mut"
    let name ← ident
    if ← sees "=" then
      let _ ← operator "="
      let _ ← table (.expression true)
      let _ ← operator ";"
      verbatim
    else
      let colon ← operator ":"
      let type ← table.tokens (.type true)
      if ← sees ";" then
        let _ ← operator ";"
        verbatim
      else
        let equals ← operator "="
        let value ← table.tokens (.expression true)
        let semicolon ← operator ";"
        known "static" (head ++ mutability ++ .ident name :: (colon ++ type ++ equals ++ value ++ semicolon))
  else if isWord 0 "const" then
    let head ← keyword "const"
    let name ← constantName []
    let rest ← constantRest table
    if rest.hasValue && !rest.isGeneric then known "const" (head ++ .ident name :: rest.tokens) else verbatim
  else if isWord 0 "unsafe" then
    if isWord 1 "trait" || (isWord 1 "auto" && isWord 2 "trait") then known "trait" (← traitItem table)
    else if isWord 1 "impl" then
      match ← implementationItem table !plain with
      | some tokens => known "impl" tokens
      | none => verbatim
    else if isWord 1 "extern" then
      withoutVisibility
      known "extern" (← foreignBlock table)
    else if isWord 1 "mod" then known "mod" (← moduleItem table)
    else
      let _ ← keyword "unsafe"
      expected ["`trait`", "`auto`", "`impl`", "`extern`", "`mod`"]
  else if isWord 0 "mod" then known "mod" (← moduleItem table)
  else if isWord 0 "type" then
    let rest ← typeRest table .beforeValue
    if rest.bounds.isSome || rest.value.isEmpty then verbatim
    else known "type" (rest.head ++ rest.constraints ++ rest.value ++ [Token.mark ';'])
  else if isWord 0 "struct" then structItem table attributes visible
  else if isWord 0 "enum" then known "enum" (← enumItem table)
  else if isWord 0 "union" && (beginning.drop 1).head?.any Token.isUsableIdent then
    known "union" (← unionItem table)
  else if isWord 0 "trait" || (isWord 0 "auto" && isWord 1 "trait") then known "trait" (← traitItem table)
  else if isWord 0 "impl" || (isWord 0 "default" && !(beginning.drop 1).head?.any (isMark '!')) then
    match ← implementationItem table !plain with
    | some tokens => known "impl" tokens
    | none => verbatim
  else if isWord 0 "macro" then
    let _ ← keyword "macro"
    let _ ← ident
    let parenthesized ← seesGroup .parenthesis
    if parenthesized then
      let _ ← anyGroup
    if ← seesGroup .brace then
      let _ ← anyGroup
      verbatim
    else expected ((if parenthesized then [] else ["parentheses"]) ++ ["curly braces"])
  else if plain && (← seesCallItem) then
    let defined : Reader (List Token) := do
      if ← next fun token => token.isUsableIdent || token.isWord "try" then return [.ident (← anyIdent)] else return []
    return .other none (attributes ++ (← callItem defined))
  else expected (itemOpenings ++ (if plain then callOpenings else []))

def itemRule : Reader Reading := do
  return ⟨(← item table).tokens, .form "item"⟩

end TypedStatement.Source.Grammar
