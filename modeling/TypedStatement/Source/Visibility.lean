import TypedStatement.Source.Reader

/-!
# Visibilities

Nothing, `pub`, or `pub` restricted to a module.
-/

namespace TypedStatement.Source
set_option autoImplicit false

inductive Visibility where
  | inherited
  | pub
  /-- `pub(path)`, or `pub(in path)`. -/
  | restricted (inside : Bool) (path : Path)

def Visibility.tokens : Visibility → List Token
  | .inherited => []
  | .pub => [Token.word "pub"]
  | .restricted inside path =>
    [Token.word "pub", Token.parens ((if inside then [Token.word "in"] else []) ++ path.tokens)]

namespace Reader

/-- Whether an identifier that may stand in a path without arguments is next. -/
def seesModuleName : Reader Bool :=
  next fun token => token.isUsableIdent || ["super", "self", "Self", "crate"].any (token.isWord ·)

/-- A path without arguments. -/
def modulePath : Reader Path := do
  let leading := !(← operator? "::").isEmpty
  let first ← if ← seesModuleName then anyIdent else ident
  let rest ← many do
    if ← sees "::" then
      let _ ← operator "::"
      if ← seesModuleName then return some (← anyIdent) else refused "expected path segment after `::`"
    else return none
  return ⟨leading, (first :: rest).map fun name => ⟨name, none⟩⟩

/-- A visibility, which may be nothing.  What follows `pub` in round brackets belongs to it only if it names a
module. -/
def visibility : Reader Visibility := do
  if ← seesWord "pub" then
    let _ ← keyword "pub"
    match ← get with
    | .group .parenthesis content :: rest =>
      match content with
      | [.ident name] =>
        if ["crate", "self", "super"].any (name == .plain ·) then
          set rest
          return .restricted false (.ofIdent name)
        else return .pub
      | token :: inner =>
        if token.isWord "in" then
          match all modulePath inner with
          | .ok path =>
            set rest
            return .restricted true path
          | .error error => throw error
        else return .pub
      | [] => return .pub
    | _ => return .pub
  else return .inherited

end Reader
end TypedStatement.Source
