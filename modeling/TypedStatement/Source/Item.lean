import TypedStatement.Source.Visibility

/-!
# Items

An item is a struct that can carry a statement, taken apart into what an expansion looks at, or any other
declaration, of which only the words that introduce it and its tokens matter.
-/

namespace TypedStatement.Source
set_option autoImplicit false

/-- A named field. -/
structure HostField where
  attributes : List Token
  visibility : Visibility
  name : Ident
  type : List Token

def HostField.tokens (field : HostField) : List Token :=
  field.attributes ++ field.visibility.tokens ++ .ident field.name :: Token.mark ':' :: field.type

inductive HostFields where
  /-- Fields in braces; a comma may follow the last one. -/
  | named (fields : List HostField) (trailingComma : Bool)
  /-- Fields without names, in round brackets. -/
  | tuple (content : List Token)
  | unit

namespace HostFields

def toList : HostFields → List HostField
  | named fields _ => fields
  | _ => []

/-- The tokens between the braces of named fields. -/
def separated : List HostField → Bool → List Token
  | [], _ => []
  | [field], trailingComma => field.tokens ++ (if trailingComma then [Token.mark ','] else [])
  | field :: rest, trailingComma => field.tokens ++ Token.mark ',' :: separated rest trailingComma

end HostFields

/-- A struct. -/
structure Host where
  attributes : List Token
  visibility : Visibility
  name : Ident
  /-- Generic parameters with their angle brackets; nothing if there are none. -/
  parameters : List Token
  /-- The `where` clause; nothing if it has no predicates. -/
  constraints : List Token
  fields : HostFields

def Host.tokens (host : Host) : List Token :=
  host.attributes ++ host.visibility.tokens ++ Token.word "struct" :: .ident host.name :: (host.parameters ++
    match host.fields with
    | .named fields trailingComma => host.constraints ++ [Token.braces (HostFields.separated fields trailingComma)]
    | .tuple content => Token.parens content :: (host.constraints ++ [Token.mark ';'])
    | .unit => host.constraints ++ [Token.mark ';'])

inductive Item where
  | struct (host : Host)
  /-- Another declaration, with the words that introduce it if it has any. -/
  | other (introducer : Option String) (tokens : List Token)

def Item.tokens : Item → List Token
  | struct host => host.tokens
  | other _ tokens => tokens

end TypedStatement.Source
