import TypedStatement.Declarations

/-!
# The tokens of declarations
-/

namespace TypedStatement
set_option autoImplicit false

open Source (Ident Path Token TypeExpr)
open Source.Token (arrow braces brackets hashBrackets lifetime mark operator parens pathSeparator word)

/-! ## Words and paths that every statement uses -/

def rootPath (names : List String) : Path := .ofNames true names

/-- The type of what may fail. -/
def resultOf (value error : TypeExpr) : TypeExpr :=
  .apply (rootPath ["std", "result", "Result"]) [value, error]

def okPath : Path := rootPath ["std", "result", "Result", "Ok"]

/-- A number of machine size. -/
def sizeLiteral (n : Nat) : Token := .literal (toString n ++ "usize")

def commaAfterEach (items : List (List Token)) : List Token :=
  items.flatMap fun item => item ++ [mark ',']

namespace Target

variable (target : Target)

def database (names : List String) : Path :=
  target.library.join ("sqlx" :: names)

def bindingsType : Path := target.database ["postgres", "PgArguments"]

/-- What making the bindings answers. -/
def bindingsResult : TypeExpr :=
  resultOf (.named target.bindingsType) (.named (target.database ["error", "BoxDynError"]))

/-- What decoding a row answers. -/
def rowResult : TypeExpr :=
  resultOf (.named (.ofNames false ["Self", "Row"])) (.named (target.database ["Error"]))

/-- Bindings without values: a call of the default of their type. -/
def emptyBindings : List Token :=
  mark '<' :: (target.bindingsType.tokens ++ word "as" :: ((rootPath ["std", "default", "Default"]).tokens ++
    mark '>' :: (pathSeparator ++ [word "default", parens []])))

end Target

/-! ## The row type -/

namespace RowType

/-- A `type` or a `struct` with the name and visibility of the target. -/
def tokens (target : Target) : RowType → List Token
  | .unit =>
    target.visibility.tokens ++ [word "type", .ident target.row, mark '=', parens [], mark ';']
  | .record fields =>
    hashBrackets [word "derive", parens [word "Debug", mark ',', word "Clone", mark ',', word "PartialEq"]] ++
      Declarations.allowCapitals ++ target.visibility.tokens ++
      [word "struct", .ident target.row, braces (commaAfterEach (fields.map fun (field, type) =>
        target.visibility.tokens ++ .ident field :: mark ':' :: type.tokens))]

end RowType

/-! ## Making the bindings -/

/-- A step as a statement on the variable `bindings`. -/
def BindingStep.tokens (target : Target) : BindingStep → List Token
  | .reserve count =>
    (target.database ["Arguments", "reserve"]).tokens ++
      [parens [mark '&', word "mut", word "bindings", mark ',', sizeLiteral count, mark ',', .literal "0"], mark ';']
  | .add field =>
    (target.database ["Arguments", "add"]).tokens ++
      [parens [mark '&', word "mut", word "bindings", mark ',', mark '&', word "self", mark '.', .ident field],
        mark '?', mark ';']

/-- The body of the function that makes the bindings. -/
def bindingsBody (target : Target) : List BindingStep → List Token
  | [] => okPath.tokens ++ [parens (target.emptyBindings ++ [mark ','])]
  | steps =>
    [word "let", word "mut", word "bindings", mark '='] ++ target.emptyBindings ++ [mark ';'] ++
      steps.flatMap (·.tokens target) ++ okPath.tokens ++ [parens [word "bindings"]]

/-! ## Decoding a row -/

/-- A field of the row with the expression that decodes it. -/
def ColumnRead.tokens (target : Target) (read : ColumnRead) : List Token :=
  .ident read.field :: mark ':' :: ((target.database ["Row", "try_get"]).tokens ++ pathSeparator ++
    mark '<' :: (read.type.tokens ++ [mark ',', word "_", mark '>',
      parens [word "row", mark ',', sizeLiteral read.index], mark '?']))

/-- The name of the argument that is decoded; it is marked as unused when nothing is read. -/
def rowArgument : List ColumnRead → String
  | [] => "_row"
  | _ => "row"

/-- The body of the function that decodes a row. -/
def decodeBody (target : Target) (reads : List ColumnRead) : List Token :=
  okPath.tokens ++ [parens (match reads with
    | [] => [parens []]
    | _ => [.ident target.row, braces (commaAfterEach (reads.map (·.tokens target)))])]

/-! ## Declarations -/

namespace Declarations

variable (declarations : Declarations)

def rowTypeTokens : List Token :=
  declarations.rowType.tokens declarations.target

def bindingsTokens : List Token :=
  let target := declarations.target
  [word "fn", word "make_bindings", parens [mark '&', word "self", mark ',']] ++ arrow ++
    target.bindingsResult.tokens ++ [braces (bindingsBody target declarations.bindingSteps)]

def decodeTokens : List Token :=
  let target := declarations.target
  let reads := declarations.columnReads
  [word "fn", word "decode_row", parens (word (rowArgument reads) :: mark ':' :: mark '&' ::
      ((target.database ["postgres", "PgRow"]).tokens ++ [mark ','])) ] ++ arrow ++
    target.rowResult.tokens ++ [braces (decodeBody target reads)]

/-- The literal that holds the text of the query. -/
def sqlLiteral : String := Source.StringLiteral.encode declarations.sql

/-- The implementation that makes the host a prepared statement. -/
def conformance : List Token :=
  let target := declarations.target
  hashBrackets [word "automatically_derived"] ++ word "impl" ::
    ((target.library.join ["PreparedStatement"]).tokens ++ [word "for", .ident target.host, braces (
      [word "type", word "Row", mark '=', .ident target.row, mark ';', word "const", word "SQL", mark ':', mark '&'] ++
        lifetime "static" ++ [word "str", mark '=', .literal declarations.sqlLiteral, mark ';'] ++
        declarations.bindingsTokens ++ declarations.decodeTokens)])

end Declarations
end TypedStatement
