/-!
# The command line

Arguments are read from left to right, up to the first that cannot be accepted.  The value of an option stands in the same
argument or in the next one; in the latter case it is looked at only when another option or the end comes.
-/

namespace TypedStatement
set_option autoImplicit false

/-- How rejected statements are reported. -/
inductive ReportFormat where
  | human
  | json
  deriving DecidableEq

structure CommandLine where
  /-- The path of the manifest. -/
  manifest : String
  /-- The path that the module is written to, instead of the standard output. -/
  out : Option String
  format : ReportFormat
  /-- Whether nothing is to be written. -/
  check : Bool
  deriving DecidableEq

/-- Why arguments are not accepted, or what is asked instead. -/
inductive CommandLine.Refusal where
  | invalidValue
  | argumentConflict
  | tooManyValues
  | unknownArgument
  | help
  | version
  deriving DecidableEq

namespace CommandLine

def Refusal.exitCode : Refusal → Nat
  | .help => 0
  | .version => 0
  | _ => 2

/-- An option that takes a value. -/
inductive ValueOption where
  | manifest
  | out
  | format
  deriving DecidableEq

/-! ## One argument -/

inductive Argument where
  /-- The mark after which no option follows. -/
  | rest
  | check (attached : Option String)
  | show (screen : Refusal) (attached : Option String)
  | value (option : ValueOption) (attached : Option String)
  | unknown
  | plain (text : String)

/-- The part before the first equals sign, and the part after it. -/
def cutAtEquals (text : List Char) : List Char × Option String :=
  match text.span (· != '=') with
  | (name, _ :: value) => (name, some (String.ofList value))
  | (name, []) => (name, none)

/-- What follows the letter of a short option. -/
def attachedToLetter : List Char → Option String
  | [] => none
  | '=' :: rest => some (String.ofList rest)
  | text => some (String.ofList text)

/-- An argument that begins with two dashes. -/
def longArgument (text : List Char) : Argument :=
  let (name, attached) := cutAtEquals text
  match String.ofList name with
  | "manifest" => .value .manifest attached
  | "out" => .value .out attached
  | "message-format" => .value .format attached
  | "check" => .check attached
  | "help" => .show .help attached
  | "version" => .show .version attached
  | _ => .unknown

/-- An argument that begins with one dash. -/
def shortArgument (letter : Char) (text : List Char) : Argument :=
  if letter = 'm' then .value .manifest (attachedToLetter text)
  else if letter = 'o' then .value .out (attachedToLetter text)
  else if letter = 'h' then .show .help none
  else if letter = 'V' then .show .version none
  else .unknown

def Argument.ofText (text : String) : Argument :=
  match text.toList with
  | ['-', '-'] => .rest
  | '-' :: '-' :: name => longArgument name
  | '-' :: letter :: name => shortArgument letter name
  | _ => .plain text

/-! ## All arguments -/

/-- What has been read so far. -/
structure Progress where
  manifest : Option String
  out : Option String
  format : Option ReportFormat
  check : Bool
  /-- An option whose value has not been looked at, with the value if it has come. -/
  pending : Option (ValueOption × Option String)

namespace Progress

def start : Progress := ⟨none, none, none, false, none⟩

def isGiven (progress : Progress) : ValueOption → Bool
  | .manifest => progress.manifest.isSome
  | .out => progress.out.isSome
  | .format => progress.format.isSome

def assign (progress : Progress) (option : ValueOption) (value : String) : Except Refusal Progress :=
  if progress.isGiven option then .error .argumentConflict
  else if value.isEmpty then .error .invalidValue
  else
    match option with
    | .manifest => .ok { progress with manifest := some value }
    | .out => .ok { progress with out := some value }
    | .format =>
      match value with
      | "human" => .ok { progress with format := some .human }
      | "json" => .ok { progress with format := some .json }
      | _ => .error .invalidValue

/-- Looks at the value of the option before. -/
def settle (progress : Progress) : Except Refusal Progress :=
  match progress.pending with
  | none => .ok progress
  | some (_, none) => .error .invalidValue
  | some (option, some value) => { progress with pending := none }.assign option value

/-- What one more argument changes. -/
def take (progress : Progress) : Argument → Except Refusal Progress
  | .check (some _) => .error .tooManyValues
  | .check none => do
    let progress ← progress.settle
    if progress.check then .error .argumentConflict else .ok { progress with check := true }
  | .show _ (some _) => .error .tooManyValues
  | .show screen none => do
    let _ ← progress.settle
    .error screen
  | .value option none => do
    let progress ← progress.settle
    .ok { progress with pending := some (option, none) }
  | .value option (some value) => do
    let progress ← progress.settle
    progress.assign option value
  | .plain text =>
    match progress.pending with
    | some (option, none) => .ok { progress with pending := some (option, some text) }
    | _ => .error .unknownArgument
  | .unknown => .error .unknownArgument
  | .rest => .ok progress

/-- The command line, once all arguments are read. -/
def finish (progress : Progress) : Except Refusal CommandLine := do
  let progress ← progress.settle
  .ok ⟨progress.manifest.getD "statements.toml", progress.out, progress.format.getD .human, progress.check⟩

/-- Reads the remaining arguments. -/
def read (progress : Progress) : List String → Except Refusal CommandLine
  | [] => progress.finish
  | text :: rest =>
    match Argument.ofText text, rest with
    | .rest, [] => progress.finish
    | .rest, _ :: _ => .error .unknownArgument
    | argument, rest =>
      match progress.take argument with
      | .error refusal => .error refusal
      | .ok progress => progress.read rest

end Progress

def parse (arguments : List String) : Except Refusal CommandLine :=
  Progress.start.read arguments

end CommandLine
end TypedStatement
