import TypedStatement.Expansion
import TypedStatement.Generator.Names
import TypedStatement.Text.Lines

/-!
# Statements of a manifest

A statement of a manifest is expanded on a unit struct that carries its documentation and the derives.
-/

namespace TypedStatement
set_option autoImplicit false

open Source (Host Ident Item Path Token)

/-- The lines of documentation on the struct. -/
def ManifestStatement.docLines (statement : ManifestStatement) : List String :=
  ((statement.doc.map Text.lines).getD []).map (" " ++ ·)

def docAttribute (line : String) : List Token :=
  Token.hashBrackets [Token.word "doc", Token.mark '=', .literal (Source.StringLiteral.encode line)]

/-- Paths with commas between them. -/
def pathList : List Path → List Token
  | [] => []
  | [path] => path.tokens
  | path :: rest => path.tokens ++ Token.mark ',' :: pathList rest

def deriveAttribute : List Path → List Token
  | [] => []
  | first :: rest => Token.hashBrackets [Token.word "derive", Token.parens (pathList (first :: rest))]

namespace Generator

variable (generator : Generator)

/-- The struct that carries a statement. -/
def host (named : NamedStatement) : Host :=
  ⟨named.statement.docLines.flatMap docAttribute ++ deriveAttribute generator.derives, generator.visibility,
    named.struct, [], [], .unit⟩

/-- What is given beside the template. -/
def options (named : NamedStatement) : ExpandOptions :=
  ⟨generator.library, named.row⟩

def expandStatement (named : NamedStatement) : Except StatementError Expansion :=
  expandItem (.struct (generator.host named)) named.statement.sql (generator.options named)

end Generator
end TypedStatement
