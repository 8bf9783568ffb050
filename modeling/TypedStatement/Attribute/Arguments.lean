import TypedStatement.Expansion
import TypedStatement.Source.Grammar
import TypedStatement.Text.Similarity

/-!
# Arguments of the attribute

The arguments are a list of literals, words, lists `name(…)` and settings `name = value`.  The first is the template;
the settings after it may name the run-time crate and the row type, each once.  Every argument that is wrong is reported.
-/

namespace TypedStatement.Attribute
set_option autoImplicit false

open Source (FragmentError Ident Path Reading Shape Token)
open Source.Reader

/-! ## Problems -/

inductive Fault where
  /-- The arguments, or those of a list among them, are no list of arguments. -/
  | unreadable (error : FragmentError)
  | missingTemplate
  | templateExpected
  | unknown (name : String)
  | repeated (name : String)
  /-- A literal, a word or a list where a setting is expected. -/
  | format (name : String)
  /-- A value of a wrong type. -/
  | type (name : String)
  /-- A text that does not say what it should say. -/
  | value (text : String)
  deriving DecidableEq

def settingNames : List String := ["crate", "row"]

def Fault.message : Fault → String
  | .unreadable error => error.message
  | .missingTemplate =>
    "missing statement template, e.g. #[statement(\"SELECT \x7bid, Uuid\x7d FROM users\")]"
  | .templateExpected => "expected the statement template as the first argument"
  | .unknown name =>
    "Unknown field: `" ++ name ++ "`. " ++
      match Text.suggestion name settingNames with
      | some similar => "Did you mean `" ++ similar ++ "`?"
      | none => "Available values: " ++ String.intercalate ", " (settingNames.map ("`" ++ · ++ "`"))
  | .repeated name => "Duplicate field `" ++ name ++ "`"
  | .format name => "Unexpected meta-item format `" ++ name ++ "`"
  | .type name => "Unexpected type `" ++ name ++ "`"
  | .value text => "Unknown value: `" ++ text ++ "`"

/-- A problem, and the setting whose value has it. -/
structure Problem where
  fault : Fault
  setting : Option String
  deriving DecidableEq

def Problem.message (problem : Problem) : String :=
  problem.fault.message ++ (problem.setting.map (" at " ++ ·)).getD ""

def problemsMessage : List Problem → String
  | [problem] => problem.message
  | problems => "Multiple errors: (" ++ String.intercalate ", " (problems.map Problem.message) ++ ")"

/-- One compile error for each problem; it stands at the argument, so it does not name the setting again. -/
def compileErrors (problems : List Problem) : List Token :=
  problems.flatMap fun problem => compileError problem.fault.message

/-! ## The list of arguments -/

/-- What stands after the name of an argument. -/
inductive Content where
  | word
  | list (tokens : List Token)
  | setting (value : Reading)

inductive Argument where
  | literal (text : String)
  | named (name : String) (content : Content)

/-- The name of an argument: identifiers, be they keywords, joined by `::`. -/
def argumentName : Source.Reader String := do
  let _ ← operator? "::"
  if !(← next Token.isAnyIdent) then refused "expected path"
  let first ← anyIdent
  let rest ← many do
    if ← sees "::" then
      let _ ← operator "::"
      if ← next Token.isAnyIdent then return some (← anyIdent) else refused "expected path segment"
    else return none
  return String.intercalate "::" ((first :: rest).map Ident.text)

/-- The value of a setting.  At the end of the arguments a literal may have a minus sign. -/
def settingValue : Source.Reader Reading := do
  let _ ← operator "="
  match ← get with
  | [.punct '-' _, .literal text] =>
    if Source.startsLiteral (← get) then
      set ([] : List Token)
      return ⟨[Token.mark '-', .literal text], .literal text⟩
  | _ => pure ()
  if (← sees "#") && (← second (·.isGroup .bracket)) then refused "unexpected attribute inside of attribute"
  Source.Grammar.withRules fun rules => rules (.expression true)

def argument : Source.Reader Argument := do
  let tokens ← get
  let isFlag := tokens.head?.any Token.isAnyIdent
  if Source.startsLiteral tokens && !(isFlag && (← second (isMark '='))) then
    let written ← literal
    return .literal (String.join (written.map fun token => Token.text [token]))
  else if isFlag || ((← sees "::") && (← third Token.isAnyIdent)) then
    let name ← argumentName
    match ← get with
    | .group _ content :: rest =>
      set rest
      return .named name (.list content)
    | _ =>
      if ← sees "=" then return .named name (.setting (← settingValue)) else return .named name .word
  else refused "expected identifier or literal"

/-- Arguments separated by commas; a comma may follow the last one. -/
def argumentList : Source.Reader (List Argument) :=
  many do
    if ← atEnd then return none
    let one ← argument
    if !(← atEnd) then
      let _ ← operator ","
    return some one

/-! ## Settings -/

/-- What kind of number a literal is: a point, or an exponent with digits, makes a fraction. -/
def numberType (text : String) : String :=
  let based := ["0x", "0o", "0b"].any (text.startsWith ·)
  match text.toList.dropWhile fun c => c.isDigit || c == '_' with
  | '.' :: _ => if based then "int" else "float"
  | c :: rest =>
    if !based && (c == 'e' || c == 'E') then
      match rest.dropWhile (· == '_') with
      | sign :: _ => if sign == '+' || sign == '-' || sign.isDigit then "float" else "int"
      | [] => "int"
    else "int"
  | [] => "int"

/-- The type of a literal as messages call it. -/
def literalType (text : String) : String :=
  match text.toList with
  | '"' :: _ => "string"
  | '\'' :: _ => "char"
  | 'b' :: '\'' :: _ => "byte"
  | 'b' :: '"' :: _ => "byte string"
  | 'c' :: _ => "unknown"
  | c :: _ =>
    if text.startsWith "br" then "byte string"
    else if text == "true" || text == "false" then "bool"
    else if c.isDigit then numberType text
    else "string"
  | [] => "string"

/-- The type of a value as messages call it. -/
def valueType : Shape → String
  | .path _ => "path"
  | .literal text => literalType text
  | .macroCall _ => "macro"
  | .form name => name

/-- The value of a setting: a text that `parse` reads, or a path that `ofPath?` takes. -/
def settingOf {α : Type} (parse : String → Except FragmentError α) (ofPath? : Path → Option α) :
    Content → Except Fault α
  | .word => .error (.format "word")
  | .list content =>
    match argumentList.all content with
    | .error error => .error (.unreadable error)
    | .ok _ => .error (.format "list")
  | .setting value =>
    match value.shape with
    | .literal text =>
      match Source.StringLiteral.value? text with
      | some content =>
        match parse content with
        | .ok result => .ok result
        | .error _ => .error (.value content)
      | none => .error (.type (literalType text))
    | .path path =>
      match ofPath? path with
      | some result => .ok result
      | none => .error (.type "path")
    | shape => .error (.type (valueType shape))

/-- A setting that may be given once: not yet, or with its value if that could be read. -/
structure Setting (α : Type) where
  given : Bool
  value : Option α

def Setting.absent {α : Type} : Setting α := ⟨false, none⟩

/-- Gives the setting; what is wrong with that is answered too. -/
def Setting.give {α : Type} (setting : Setting α) (name : String) (value : Except Fault α) :
    Setting α × List Problem :=
  if setting.given then (setting, [⟨.repeated name, none⟩])
  else
    match value with
    | .ok result => (⟨true, some result⟩, [])
    | .error fault => (⟨true, none⟩, [⟨fault, some name⟩])

structure Settings where
  library : Setting Path
  row : Setting Ident

def Settings.take (settings : Settings) : Argument → Settings × List Problem
  | .literal _ => (settings, [⟨.format "literal", none⟩])
  | .named name content =>
    if name == "crate" then
      let (library, problems) := settings.library.give name (settingOf Path.parse some content)
      ({ settings with library }, problems)
    else if name == "row" then
      let (row, problems) := settings.row.give name (settingOf Ident.parse Path.ident? content)
      ({ settings with row }, problems)
    else (settings, [⟨.unknown name, none⟩])

/-- Takes the arguments in order, and collects what is wrong with them. -/
def Settings.takeAll (settings : Settings) : List Argument → Settings × List Problem
  | [] => (settings, [])
  | one :: rest =>
    let (next, problems) := settings.take one
    let (final, later) := next.takeAll rest
    (final, problems ++ later)

/-! ## The arguments -/

/-- What the arguments say. -/
structure Arguments where
  template : String
  options : ExpandOptions

def ofArguments : List Argument → Except (List Problem) Arguments
  | [] => .error [⟨.missingTemplate, none⟩]
  | .named _ _ :: _ => .error [⟨.templateExpected, none⟩]
  | .literal text :: rest =>
    match Source.StringLiteral.value? text with
    | none => .error [⟨.templateExpected, none⟩]
    | some template =>
      match (⟨.absent, .absent⟩ : Settings).takeAll rest with
      | (settings, []) => .ok ⟨template, settings.library.value.getD usualLibrary, settings.row.value⟩
      | (_, problems) => .error problems

/-- Reads the tokens between the brackets of the attribute. -/
def readArguments (tokens : List Token) : Except (List Problem) Arguments :=
  match argumentList.all tokens with
  | .error error => .error [⟨.unreadable error, none⟩]
  | .ok arguments => ofArguments arguments

end TypedStatement.Attribute
