import TypedStatement.Run

/-!
# The program

The arguments, the variables and the manifest are read, everything is decided by `TypedStatement.Run`, and what is decided
is carried out.
-/

namespace TypedStatement.Program
set_option autoImplicit false

/-- The variables in the environment of the process. -/
def environment : IO (List (String × String)) := do
  try
    let bytes ← IO.FS.readBinFile "/proc/self/environ"
    return ((String.fromUTF8? bytes).getD "").splitOn "\x00" |>.filterMap fun entry =>
      match entry.toList.span (· != '=') with
      | (name, _ :: value) => some (String.ofList name, String.ofList value)
      | (_, []) => none
  catch _ => return []

/-- What each of some paths leads to. -/
def kindsOf (paths : List String) : IO (List (String × FileKind)) := do
  let here ← IO.currentDir
  let mut kinds := []
  for path in paths do
    let place := here / path
    if ← place.isDir then kinds := (path, .directory) :: kinds
    else if ← place.pathExists then kinds := (path, .file (← IO.FS.readFile place)) :: kinds
  return kinds

/-- The screen that explains the options. -/
def helpText : String :=
  "Generate typed Postgres prepared statements from SQL templates\n\n" ++
  "Usage: pgstmt-gen [OPTIONS]\n\n" ++
  "Options:\n" ++
  "  -m, --manifest <MANIFEST>      Statement manifest (TOML) [default: statements.toml]\n" ++
  "  -o, --out <OUT>                Write the generated module here instead of stdout\n" ++
  "      --message-format <FORMAT>  How failures are reported: human (default) or json\n" ++
  "      --check                    Report failures without writing anything\n" ++
  "  -h, --help                     Print help\n" ++
  "  -V, --version                  Print version\n"

def refusalText : CommandLine.Refusal → String
  | .invalidValue => "invalid or missing value of an option"
  | .argumentConflict => "an option is given more than once"
  | .tooManyValues => "a value is given to an option that takes none"
  | .unknownArgument => "unexpected argument"
  | .help => helpText
  | .version => versionText

def showRefusal (refusal : CommandLine.Refusal) : IO Unit :=
  if refusal.exitCode = 0 then IO.print (refusalText refusal)
  else IO.eprint (complaintLine (refusalText refusal))

/-- Ends the program with a complaint. -/
def complain (text : String) : IO UInt32 := do
  IO.eprint (complaintLine text)
  return 1

def writeLog (manifest : Manifest) (events : List Log.Event) : IO Unit := do
  for event in Log.logged (Log.Level.ofName manifest.logging.level) events do
    IO.eprintln (Log.eventLine manifest.logging event)

/-- Why a file cannot be written. -/
def causeOf : IO.Error → Option FileError
  | .noFileOrDirectory .. => some .missing
  | .inappropriateType _ 21 _ => some .isDirectory
  | .inappropriateType _ 20 _ => some .notDirectory
  | _ => none

def writeModule (path text : String) : IO Unit :=
  tryCatch (IO.FS.writeFile path text) fun error =>
    match causeOf error with
    | some cause => throw (.userError (RunError.write path cause).chain)
    | none => throw error

/-- Carries out a delivery. -/
def deliver (manifest : Manifest) (delivery : Delivery) : IO UInt32 := do
  match delivery with
  | .nothing => pure ()
  | .output text => IO.print text
  | .file path text => writeModule path text
  | .humanReport text => IO.eprint text
  | .jsonReport text => IO.print text
  writeLog manifest (Log.deliveryEvents delivery)
  return if delivery.isSuccess then 0 else 1

def runLine (line : CommandLine) : IO UInt32 := do
  let kinds ← kindsOf (line.manifest :: (Configuration.candidates line.manifest).map (·.2))
  match line.openManifest (← IO.currentDir).toString (List.lookup · kinds) (← environment) with
  | .error text => complain text
  | .ok manifest =>
    writeLog manifest (Log.decideEvents line manifest)
    match line.decide manifest with
    | .error error => complain error.chain
    | .ok delivery => deliver manifest delivery

end TypedStatement.Program

open TypedStatement in
/-- Runs the program on its arguments. -/
def main (arguments : List String) : IO UInt32 := do
  match CommandLine.parse arguments with
  | .error refusal =>
    Program.showRefusal refusal
    return refusal.exitCode.toUInt32
  | .ok line =>
    try Program.runLine line
    catch error => Program.complain (toString error)
