import TypedStatement.Generator.Statement
import TypedStatement.Layout

/-!
# The generated module

The declarations of all statements, laid out in lines.  A path has no line breaks inside.
-/

namespace TypedStatement
set_option autoImplicit false

open Layout (Piece block call commaList hardBreak indentedList run space)
open Source (Ident Path Token TypeExpr Visibility)

namespace Generator

/-! ## Paths, types and visibilities -/

mutual

/-- The characters of a token without blanks. -/
def denseToken : Token → List Char
  | .group delimiter content => delimiter.open :: (denseTokens content ++ [delimiter.close])
  | .ident ident => ident.text.toList
  | .punct c _ => [c]
  | .literal text => text.toList

/-- The characters of tokens without blanks. -/
def denseTokens : List Token → List Char
  | [] => []
  | token :: rest => denseToken token ++ denseTokens rest

end

/-- A path as it is written, without blanks. -/
def pathText (path : Path) : String :=
  String.ofList (denseTokens path.tokens)

/-- The path with `::` before all its arguments, or before none. -/
def withTurbofish (turbofish : Bool) (path : Path) : Path :=
  { path with segments := path.segments.map fun segment =>
    { segment with arguments := segment.arguments.map fun arguments => { arguments with turbofish } } }

def typePathText (path : Path) : String := pathText (withTurbofish false path)

def valuePathText (path : Path) : String := pathText (withTurbofish true path)

mutual

def typePieces : TypeExpr → List Piece
  | .apply path [] => [.text (typePathText path)]
  | .apply path (argument :: rest) =>
    [.text (typePathText path ++ "<"), indentedList (typePieces argument :: typePieceLists rest), .text ">"]

def typePieceLists : List TypeExpr → List (List Piece)
  | [] => []
  | type :: rest => typePieces type :: typePieceLists rest

end

/-- The words that name a module by themselves. -/
def namesModule (path : Path) : Bool :=
  match path.ident? with
  | some ident => ["self", "super", "crate"].any (ident == .plain ·)
  | none => false

def visibilityText : Visibility → String
  | .inherited => ""
  | .pub => "pub "
  | .restricted inside path =>
    "pub(" ++ (if inside && !namesModule path then "in " else "") ++ pathText path ++ ") "

/-! ## Attributes -/

/-- What the last token of an attribute was. -/
inductive AttributeEnd where
  | word
  | mark
  | comma
  deriving DecidableEq

/-- The gap before a word: none unless another word is before it. -/
def wordGap : AttributeEnd → List Piece
  | .word => [space 1]
  | _ => []

mutual

/-- One token of an attribute; `final` says that it is the last of its group. -/
def attributePiece (state : AttributeEnd) (isFinal : Bool) : Token → List Piece × AttributeEnd
  | .ident ident => (wordGap state ++ [.text ident.text], .word)
  | .literal text => (wordGap state ++ [.text text], .word)
  | .punct c _ =>
    if c = ',' then
      if isFinal then ([.gap 0 (-4) ","], .comma) else ([.text ",", space 1], .mark)
    else if c = '=' then ((if state = .word then [.text " "] else []) ++ [.text "=", .text " "], .mark)
    else ([.text (String.singleton c)], .mark)
  | .group .parenthesis content =>
    let (inside, last) := attributePieces .mark content
    ([.text "(", block 4 (space 0 :: (inside ++ (if last = .comma then [] else [.gap 0 (-4) ""]))), .text ")"], .mark)
  | .group delimiter content =>
    let (inside, _) := attributePieces .mark content
    ([.text (String.singleton delimiter.open)] ++ inside ++ [.text (String.singleton delimiter.close)], .mark)

def attributePieces (state : AttributeEnd) : List Token → List Piece × AttributeEnd
  | [] => ([], state)
  | token :: rest =>
    let (first, next) := attributePiece state rest.isEmpty token
    let (later, last) := attributePieces next rest
    (first ++ later, last)

end

def attributeOf (content : List Token) : List Piece :=
  [.text "#["] ++ (attributePieces .mark content).1 ++ [.text "]", space 1]

def allowCapitals : List Piece :=
  attributeOf [Token.word "allow", Token.parens [Token.word "non_snake_case"]]

def derive (paths : List Path) : List Piece :=
  match paths with
  | [] => []
  | first :: rest => attributeOf [Token.word "derive", Token.parens (pathList (first :: rest))]

/-! ## Structs -/

/-- A field of a struct: attributes, its name and its type. -/
structure FieldPieces where
  attributes : List Piece
  name : Ident
  type : TypeExpr

/-- The fields of a struct; the last line break leaves the indentation. -/
def fieldLines (visibility : String) : List FieldPieces → List Piece
  | [] => []
  | field :: rest =>
    field.attributes ++ [.text (visibility ++ field.name.text ++ ": ")] ++ typePieces field.type ++
      [.text ",", hardBreak (if rest.isEmpty then -4 else 0)] ++ fieldLines visibility rest

/-- A struct with named fields, or a unit struct if there are none. -/
def structLines (visibility : String) (name : Ident) (fields : List FieldPieces) : List Piece :=
  match fields with
  | [] => [block 4 [.text (visibility ++ "struct " ++ name.text ++ ";")], hardBreak 0]
  | _ =>
    [block 4 ([.text (visibility ++ "struct " ++ name.text ++ " \x7b"), hardBreak 0] ++ fieldLines visibility fields),
      .text "\x7d", hardBreak 0]

/-! ## Functions -/

/-- A statement or the final expression of a body. -/
structure BodyLine where
  content : List Piece

/-- The lines of a body; the last line break leaves the indentation. -/
def bodyLines : List BodyLine → List Piece
  | [] => []
  | line :: rest => [run 0 line.content, hardBreak (if rest.isEmpty then -4 else 0)] ++ bodyLines rest

/-- A function with one argument; `offset` is that of the line break after it. -/
def function (name argument : String) (result : TypeExpr) (body : List BodyLine) (offset : Int) : List Piece :=
  [block 4 ([.text ("fn " ++ name ++ "("), .seam, block 0 (space 0 :: commaList (-4) [[.text argument]]), .text ")",
      block (-4) (.text " -> " :: typePieces result), .text " \x7b", hardBreak 0] ++ bodyLines body),
    .text "\x7d", hardBreak offset]

variable (declarations : Declarations)

/-- Bindings without values. -/
def emptyBindings (target : Target) : String :=
  "<" ++ typePathText target.bindingsType ++ " as ::std::default::Default>::default()"

def bindingLine (target : Target) : BindingStep → BodyLine
  | .reserve count =>
    ⟨call [.text (valuePathText (target.database ["Arguments", "reserve"]))]
      [[.text "&mut bindings"], [.text (toString count ++ "usize")], [.text "0"]] ++ [.text ";"]⟩
  | .add field =>
    ⟨call [.text (valuePathText (target.database ["Arguments", "add"]))]
      [[.text "&mut bindings"], [.text "&", block 4 [.text "self", space 0, .text ("." ++ field.text)]]] ++
        [.text "?;"]⟩

/-- The body of the function that makes the bindings. -/
def bindingLines (target : Target) : List BindingStep → List BodyLine
  | [] => [⟨call [.text (pathText okPath)] [[.text (emptyBindings target)]]⟩]
  | steps =>
    [⟨[.text "let mut bindings = ", .seam, .text (emptyBindings target ++ ";")]⟩] ++
      steps.map (bindingLine target) ++ [⟨call [.text (pathText okPath)] [[.text "bindings"]]⟩]

/-- The expression that decodes a field. -/
def readPieces (target : Target) (read : ColumnRead) : List Piece :=
  [.text (read.field.text ++ ": "), run 0 (call
    [.text (valuePathText (target.database ["Row", "try_get"]) ++ "::<"), indentedList [typePieces read.type, [.text "_"]],
      .text ">"]
    [[.text "row"], [.text (toString read.index ++ "usize")]] ++ [.text "?"])]

/-- Items, each on a line or all on one, with a comma after the last one if it is on a line of its own. -/
def spacedItems : List (List Piece) → List Piece
  | [] => []
  | [item] => item ++ [.gap 1 (-4) ","]
  | item :: rest => item ++ [.text ",", space 1] ++ spacedItems rest

/-- The most bytes of a record that is written on one line. -/
def recordWidth : Nat := 34

/-- The body of the function that decodes a row. -/
def decodeLines (target : Target) : List ColumnRead → List BodyLine
  | [] => [⟨[.text (pathText okPath ++ "(())")]⟩]
  | reads =>
    [⟨[.text (pathText okPath ++ "("),
      .group 4 .consistent (some recordWidth)
        ([.text (target.row.text ++ " \x7b"), space 1] ++ spacedItems (reads.map (readPieces target))),
      .text "\x7d)"]⟩]

/-! ## Declarations -/

def rowPieces (target : Target) : RowType → List Piece
  | .unit =>
    [block 4 [.text (visibilityText target.visibility ++ "type " ++ target.row.text ++ " = "), .seam,
      run (-4) [.text "()"], .text ";"], hardBreak 0]
  | .record fields =>
    derive (["Debug", "Clone", "PartialEq"].map fun name => .ofNames false [name]) ++ allowCapitals ++
      structLines (visibilityText target.visibility) target.row (fields.map fun (name, type) => ⟨[], name, type⟩)

/-- The implementation that makes the host a prepared statement. -/
def implementation : List Piece :=
  let target := declarations.target
  let reads := declarations.columnReads
  attributeOf [Token.word "automatically_derived"] ++
    [block 4 ([run (-4) [.text ("impl " ++ typePathText (target.library.join ["PreparedStatement"])), space 1,
          .text ("for " ++ target.host.text)], .text " \x7b", hardBreak 0,
        block 4 [.text "type Row = ", .seam, run (-4) [.text target.row.text], .text ";"], hardBreak 0,
        block 0 [.text "const SQL: &'static str = ", .seam, .text declarations.sqlLiteral, .text ";"], hardBreak 0] ++
      function "make_bindings" "&self" target.bindingsResult (bindingLines target declarations.bindingSteps) 0 ++
      function "decode_row" (rowArgument reads ++ ": &" ++ typePathText (target.database ["postgres", "PgRow"]))
        target.rowResult (decodeLines target reads) (-4)),
      .text "\x7d", hardBreak 0]

def hostFieldPieces : List FieldPieces :=
  declarations.boundFields.map fun field =>
    ⟨if Declarations.hasCapital field.ident then allowCapitals else [], field.ident, declarations.fieldType field⟩

def docPieces (line : String) : List Piece :=
  [.text ("///" ++ String.ofList (line.toList.reverse.dropWhile (· == ' ')).reverse), hardBreak 0]

def statementPieces (docLines : List String) (derives : List Path) : List Piece :=
  let target := declarations.target
  docLines.flatMap docPieces ++ derive derives ++
    structLines (visibilityText target.visibility) target.host (hostFieldPieces declarations) ++
    rowPieces target declarations.rowType ++ implementation declarations

/-- The line at the start of a module that says that it is generated. -/
def headerText : String := "// @generated by pgstmt-gen. Do not edit by hand.\n\n"

/-- An expanded statement of a manifest. -/
structure ExpandedStatement where
  named : NamedStatement
  expansion : Expansion

def moduleText (generator : Generator) (statements : List ExpandedStatement) : String :=
  (if generator.header then headerText else "") ++
    Layout.render [block 0 (statements.flatMap fun s =>
      statementPieces s.expansion.declarations s.named.statement.docLines generator.derives)]

end Generator
end TypedStatement
