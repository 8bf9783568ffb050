import TypedStatement.CommandLine
import TypedStatement.Configuration.Load
import TypedStatement.Log.Trace
import TypedStatement.Report

/-!
# Runs of the program

A run first decides what is to be delivered, and only then delivers it: a module on the standard output or in a file, or a
report.  Nothing is delivered unless all statements are generated, apart from the report.
-/

namespace TypedStatement
set_option autoImplicit false

/-! ## Deciding -/

inductive RunError where
  | settings (error : SettingsError)
  | generate (error : GenerateError)
  | write (path : String) (cause : FileError)
  deriving DecidableEq

namespace RunError

def message : RunError → String
  | .settings error => error.message
  | .generate error => error.message
  | .write path _ => "failed to write " ++ path

def chain : RunError → String
  | .settings error => error.chain
  | .generate error => error.chain
  | .write path cause => "failed to write " ++ path ++ ": " ++ cause.message

end RunError

/-- What a run is to deliver. -/
inductive Delivery where
  /-- Nothing: the statements were only checked. -/
  | nothing
  /-- A module on the standard output. -/
  | output (text : String)
  /-- A module in a file. -/
  | file (path text : String)
  /-- A report for people, on the standard error output. -/
  | humanReport (text : String)
  /-- A report for programs, on the standard output. -/
  | jsonReport (text : String)
  deriving DecidableEq

/-- Whether all statements were generated. -/
def Delivery.isSuccess : Delivery → Bool
  | .nothing => true
  | .output _ => true
  | .file _ _ => true
  | .humanReport _ => false
  | .jsonReport _ => false

/-- What an outcome is to deliver under a command line. -/
def CommandLine.delivery (line : CommandLine) : Outcome → Delivery
  | .module text =>
    if line.check then .nothing
    else
      match line.out with
      | some path => .file path text
      | none => .output text
  | .rejected failures =>
    match line.format with
    | .human => .humanReport (Report.human line.manifest failures)
    | .json => .jsonReport (Report.json line.manifest failures)

def CommandLine.decide (line : CommandLine) (manifest : Manifest) : Except RunError Delivery :=
  match Generator.ofSettings manifest.generator with
  | .error error => .error (.settings error)
  | .ok generator =>
    match generator.generate manifest.statements with
    | .error error => .error (.generate error)
    | .ok outcome => .ok (line.delivery outcome)

/-! ## Delivering -/

/-- What a run leaves behind. -/
structure Delivered where
  isSuccess : Bool
  /-- What the standard output gets. -/
  output : String
  /-- What the standard error output gets, apart from the log. -/
  complaint : String
  tree : FileTree

/-- Carries out a delivery; only writing a file can fail. -/
def Delivery.carryOut (tree : FileTree) : Delivery → Except RunError Delivered
  | .nothing => .ok ⟨true, "", "", tree⟩
  | .output text => .ok ⟨true, text, "", tree⟩
  | .file path text =>
    match tree.write path text with
    | .error cause => .error (.write path cause)
    | .ok tree => .ok ⟨true, "", "", tree⟩
  | .humanReport text => .ok ⟨false, "", text, tree⟩
  | .jsonReport text => .ok ⟨false, text, "", tree⟩

def CommandLine.run (line : CommandLine) (manifest : Manifest) (tree : FileTree) : Except RunError Delivered :=
  match line.decide manifest with
  | .error error => .error error
  | .ok delivery => delivery.carryOut tree

/-! ## The log -/

namespace Log

def programTarget : String := "pgstmt_gen"

def loadedEvent (line : CommandLine) (manifest : Manifest) : Event :=
  ⟨.info, programTarget, "loaded manifest",
    [("manifest", .text line.manifest), ("statements", .nat manifest.statements.length)]⟩

/-- The events up to the decision. -/
def decideEvents (line : CommandLine) (manifest : Manifest) : List Event :=
  match Generator.ofSettings manifest.generator with
  | .error _ => []
  | .ok generator => loadedEvent line manifest :: generateEvents generator manifest.statements

def deliveryEvents : Delivery → List Event
  | .nothing => [⟨.info, programTarget, "all statements compile", []⟩]
  | .file path _ => [⟨.info, programTarget, "wrote generated module", [("out", .text path)]⟩]
  | _ => []

def outcomeEvents (line : CommandLine) (manifest : Manifest) (tree : FileTree) : List Event :=
  match line.decide manifest with
  | .error _ => []
  | .ok delivery =>
    match delivery.carryOut tree with
    | .error _ => []
    | .ok _ => deliveryEvents delivery

def runEvents (line : CommandLine) (manifest : Manifest) (tree : FileTree) : List Event :=
  logged (Level.ofName manifest.logging.level)
    (decideEvents line manifest ++ outcomeEvents line manifest tree)

/-- An event as the manifest asks for it: as JSON, or as text for people. -/
def eventLine (settings : LoggingSettings) (event : Event) : String :=
  if Text.lowercaseString settings.format = "json" then Json.write event.record else event.line

end Log

/-! ## The whole program -/

/-- The text that the program shows as its version. -/
def versionText : String := "pgstmt-gen 0.1.0\n"

/-- A complaint that ends the program. -/
def complaintLine (text : String) : String := "error: " ++ text ++ "\n"

/-- The manifest of a command line, or the reason why there is none. -/
def CommandLine.openManifest (directory : String) (kind? : String → Option FileKind)
    (environment : List (String × String)) (line : CommandLine) : Except String Manifest :=
  match kind? line.manifest with
  | none => .error ("manifest " ++ line.manifest ++ " not found")
  | some _ =>
    match Configuration.load directory kind? environment line.manifest with
    | .error error => .error ("failed to load " ++ line.manifest ++ ": " ++ error.message)
    | .ok manifest => .ok manifest

/-- What the program leaves behind. -/
structure Answer where
  exitCode : Nat
  output : String
  events : List Log.Event
  /-- What the standard error output gets after the log. -/
  complaint : String
  tree : FileTree

/-- The answer of a program that only complains. -/
def Answer.refused (tree : FileTree) (events : List Log.Event) (text : String) : Answer :=
  ⟨1, "", events, complaintLine text, tree⟩

/-- The program on arguments, variables and files.  `directory` is the working directory as messages show it. -/
def runProgram (directory : String) (tree : FileTree) (environment : List (String × String)) (arguments : List String) :
    Answer :=
  match CommandLine.parse arguments with
  | .error refusal => ⟨refusal.exitCode, if refusal = .version then versionText else "", [], "", tree⟩
  | .ok line =>
    match line.openManifest directory tree.kind? environment with
    | .error text => .refused tree [] text
    | .ok manifest =>
      let events := Log.runEvents line manifest tree
      match line.run manifest tree with
      | .error error => .refused tree events error.chain
      | .ok delivered =>
        ⟨if delivered.isSuccess then 0 else 1, delivered.output, events, delivered.complaint, delivered.tree⟩

end TypedStatement
