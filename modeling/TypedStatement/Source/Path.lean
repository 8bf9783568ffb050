import TypedStatement.Source.Token

/-!
# Paths and types of emitted declarations

A path names a module or a type; a type is a path with type arguments.  Both have one token form.
-/

namespace TypedStatement.Source
set_option autoImplicit false

/-- The part `<…>` of a path segment: with or without `::` in front, and the tokens inside. -/
structure GenericArguments where
  turbofish : Bool
  content : List Token
  /-- The type inside, if it is the only argument and no more than an identifier. -/
  soleName : Option Ident

structure PathSegment where
  ident : Ident
  arguments : Option GenericArguments

/-- `a::b`, or `::a::b` with a leading separator. -/
structure Path where
  leading : Bool
  segments : List PathSegment

namespace Path

def ofNames (leading : Bool) (names : List String) : Path :=
  ⟨leading, names.map fun name => ⟨.plain name, none⟩⟩

/-- A path that ends with one identifier. -/
def ofIdent (ident : Ident) : Path :=
  ⟨false, [⟨ident, none⟩]⟩

def join (path : Path) (names : List String) : Path :=
  { path with segments := path.segments ++ names.map fun name => ⟨.plain name, none⟩ }

/-- The identifier, if the path is nothing else. -/
def ident? (path : Path) : Option Ident :=
  match path.leading, path.segments with
  | false, [⟨ident, none⟩] => some ident
  | _, _ => none

end Path

namespace GenericArguments

def tokens (arguments : GenericArguments) : List Token :=
  (if arguments.turbofish then Token.pathSeparator else []) ++
    Token.mark '<' :: (arguments.content ++ [Token.mark '>'])

end GenericArguments

def PathSegment.tokens (segment : PathSegment) : List Token :=
  .ident segment.ident :: (segment.arguments.map GenericArguments.tokens).getD []

/-- Lists joined by the separator of paths. -/
def joinSegments : List (List Token) → List Token
  | [] => []
  | [segment] => segment
  | segment :: rest => segment ++ Token.pathSeparator ++ joinSegments rest

def Path.tokens (path : Path) : List Token :=
  (if path.leading then Token.pathSeparator else []) ++ joinSegments (path.segments.map PathSegment.tokens)

/-- A type as emitted declarations use it: a path applied to types. -/
inductive TypeExpr where
  | apply (path : Path) (arguments : List TypeExpr)

namespace TypeExpr

/-- A path without arguments. -/
def named (path : Path) : TypeExpr := .apply path []

mutual

def tokens : TypeExpr → List Token
  | .apply path [] => path.tokens
  | .apply path (argument :: rest) =>
    path.tokens ++ Token.mark '<' :: (argument.tokens ++ tokensAfterComma rest ++ [Token.mark '>'])

def tokensAfterComma : List TypeExpr → List Token
  | [] => []
  | argument :: rest => Token.mark ',' :: (argument.tokens ++ tokensAfterComma rest)

end

end TypeExpr
end TypedStatement.Source
